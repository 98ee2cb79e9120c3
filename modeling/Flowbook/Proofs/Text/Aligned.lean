namespace Flowbook.Text

/-!
Texts that can be told apart wherever they stand. Where two texts are put
together from parts, it is enough to look at the parts one after the other.
-/

/-- If the two texts start one and the same text, then they end at the same place in it, and
`same` holds. -/
def Aligned (front other : String) (same : Prop) : Prop :=
  ∀ rest tail, front.toList ++ rest = other.toList ++ tail → same ∧ rest = tail

variable {front other back next : String} {same also : Prop}

theorem Aligned.refl (text : String) : Aligned text text True :=
  fun _ _ equal => ⟨trivial, List.append_cancel_left equal⟩

theorem Aligned.imp (aligned : Aligned front other same) (implies : same → also) :
    Aligned front other also :=
  fun rest tail equal => (aligned rest tail equal).imp_left implies

theorem Aligned.append (first : Aligned front other same) (second : same → Aligned back next also) :
    Aligned (front ++ back) (other ++ next) (same ∧ also) := by
  intro rest tail equal
  simp only [String.toList_append, List.append_assoc] at equal
  obtain ⟨holds, equalRest⟩ := first _ _ equal
  obtain ⟨alsoHolds, equalTail⟩ := second holds _ _ equalRest
  exact ⟨⟨holds, alsoHolds⟩, equalTail⟩

theorem Aligned.after (before : String) (aligned : Aligned front other same) :
    Aligned (before ++ front) (before ++ other) same :=
  ((Aligned.refl before).append fun _ => aligned).imp And.right

theorem Aligned.before (aligned : Aligned front other same) (after : String) :
    Aligned (front ++ after) (other ++ after) same :=
  (aligned.append fun _ => .refl after).imp And.left

theorem Aligned.eq (aligned : Aligned front other same) (equal : front = other) : same :=
  (aligned [] [] (by rw [equal])).1

theorem append_mark_inj {mark : Char} {chars others rest tail : List Char}
    (notInChars : mark ∉ chars) (notInOthers : mark ∉ others)
    (equal : chars ++ mark :: rest = others ++ mark :: tail) : chars = others ∧ rest = tail := by
  induction chars generalizing others with
  | nil =>
      cases others with
      | nil => exact ⟨rfl, (List.cons.inj equal).2⟩
      | cons c others =>
          obtain ⟨rfl, _⟩ := List.cons.inj equal
          exact absurd List.mem_cons_self notInOthers
  | cons c chars induction =>
      cases others with
      | nil =>
          obtain ⟨rfl, _⟩ := List.cons.inj equal
          exact absurd List.mem_cons_self notInChars
      | cons d others =>
          obtain ⟨rfl, equalRest⟩ := List.cons.inj equal
          obtain ⟨rfl, equalTail⟩ := induction (List.not_mem_of_not_mem_cons notInChars)
            (List.not_mem_of_not_mem_cons notInOthers) equalRest
          exact ⟨rfl, equalTail⟩

/-- A mark that is in none of two texts ends them at the same place. -/
theorem aligned_until {ending : String} {mark : Char} (isMark : ending.toList = [mark])
    (notInFront : mark ∉ front.toList) (notInOther : mark ∉ other.toList) :
    Aligned (front ++ ending) (other ++ ending) (front = other) := by
  intro rest tail equal
  simp only [String.toList_append, isMark, List.append_assoc, List.singleton_append] at equal
  obtain ⟨same, equalTail⟩ := append_mark_inj notInFront notInOther equal
  exact ⟨String.toList_inj.mp same, equalTail⟩

/-- Texts in a row, with an ending that none of them starts like. -/
theorem aligned_join {α : Type} {write : α → String} {ending : String} {items more : List α}
    (ends : ∀ item rest tail, ending.toList ++ rest ≠ (write item).toList ++ tail)
    (aligned : ∀ a ∈ items, ∀ b ∈ more, Aligned (write a) (write b) (a = b)) :
    Aligned (String.join (items.map write) ++ ending) (String.join (more.map write) ++ ending)
      (items = more) := by
  induction items generalizing more with
  | nil =>
      cases more with
      | nil => exact (Aligned.refl _).imp (fun _ => rfl)
      | cons b more =>
          intro rest tail equal
          simp only [List.map_nil, String.join_nil, String.empty_append, List.map_cons,
            String.join_cons, String.toList_append, List.append_assoc] at equal
          exact absurd equal (ends b _ _)
  | cons a items induction =>
      cases more with
      | nil =>
          intro rest tail equal
          simp only [List.map_nil, String.join_nil, String.empty_append, List.map_cons,
            String.join_cons, String.toList_append, List.append_assoc] at equal
          exact absurd equal.symm (ends a _ _)
      | cons b more =>
          obtain ⟨first, others⟩ := List.forall_mem_cons.mp aligned
          simp only [List.map_cons, String.join_cons, String.append_assoc]
          refine ((first b List.mem_cons_self).append fun _ => induction (fun c isItem d isMore =>
            others c isItem d (List.mem_cons_of_mem b isMore))).imp ?_
          rintro ⟨rfl, rfl⟩
          rfl

end Flowbook.Text
