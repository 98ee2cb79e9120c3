import Flowbook.Plan.Cycle
import Flowbook.Proofs.Plan.Cycle

namespace Flowbook

open Relation

/-!
The depth-first search finds the strongly connected components. The calls divide
the stack into frames: a tool whose links are being followed, and above it the
tools that were finished in that call and not closed. From each of these the search
has found a way to a tool further down. A lowlink is the index of a tool that can
be reached, and no link that was followed from its frame leads to a tool on the
stack with a lesser index. So if the lowlink of a finished tool is its own index,
no link leads out of its frame but to closed tools, and the frame is a component.
-/

variable {next : ToolId → List ToolId} {ids : List ToolId} {id other : ToolId}

/-- One tool can be reached from another along links, or is that tool. -/
def Leads (next : ToolId → List ToolId) : ToolId → ToolId → Prop :=
  ReflTransGen (fun a b => b ∈ next a)

/-- What is closed under links is not left by following them. -/
theorem Leads.induction {inside : ToolId → Prop} (leads : Leads next id other)
    (closed : ∀ a, inside a → ∀ b ∈ next a, inside b) (member : inside id) : inside other := by
  induction leads with
  | refl => exact member
  | tail _ link induction => exact closed _ induction _ link

namespace Tarjan

variable {tarjan later : Tarjan}

def Seen (tarjan : Tarjan) (id : ToolId) : Prop :=
  (tarjan.visit? id).isSome

/-- The number that a tool was discovered with. -/
def index (tarjan : Tarjan) (id : ToolId) : Nat :=
  ((tarjan.visit? id).map Visit.index).getD 0

def low (tarjan : Tarjan) (id : ToolId) : Nat :=
  ((tarjan.visit? id).map Visit.lowlink).getD 0

theorem id_of_visit? {visit : Visit} (found : tarjan.visit? id = some visit) : visit.id = id := by
  simpa using List.find?_some found

theorem seen_discover : (tarjan.discover id).Seen other ↔ other = id ∨ tarjan.Seen other := by
  rw [Seen, visit?_discover]
  by_cases same : id = other
  · simp [same]
  · simp [same, Ne.symm same, Seen]

theorem index_discover_self (tarjan : Tarjan) (id : ToolId) :
    (tarjan.discover id).index id = tarjan.visits.length := by
  simp [index, visit?_discover]

theorem low_discover_self (tarjan : Tarjan) (id : ToolId) :
    (tarjan.discover id).low id = tarjan.visits.length := by
  simp [low, visit?_discover]

theorem index_discover (differs : id ≠ other) :
    (tarjan.discover id).index other = tarjan.index other := by
  simp [index, visit?_discover, differs]

theorem low_discover (differs : id ≠ other) :
    (tarjan.discover id).low other = tarjan.low other := by
  simp [low, visit?_discover, differs]

variable {bound : Nat}

theorem seen_lower : (tarjan.lower id bound).Seen other ↔ tarjan.Seen other := by
  simp [Seen, visit?_lower]

theorem index_lower : (tarjan.lower id bound).index other = tarjan.index other := by
  rw [index, visit?_lower, Option.map_map, index]
  congr 2
  funext visit
  simp only [Function.comp]
  split <;> rfl

theorem low_lower (differs : other ≠ id) : (tarjan.lower id bound).low other = tarjan.low other := by
  rw [low, visit?_lower, low]
  cases found : tarjan.visit? other with
  | none => rfl
  | some visit => simp [id_of_visit? found, differs]

theorem low_lower_self (seen : tarjan.Seen id) :
    (tarjan.lower id bound).low id = min (tarjan.low id) bound := by
  obtain ⟨visit, found⟩ := Option.isSome_iff_exists.mp seen
  simp [low, visit?_lower, found, id_of_visit? found]

theorem seen_close : (tarjan.close id).Seen other ↔ tarjan.Seen other := by
  rw [Seen, visit?_close, Seen]

theorem seen_finish {callers : List Call} :
    (tarjan.finish id callers).Seen other ↔ tarjan.Seen other := by
  unfold finish
  split
  · rw [seen_close, seen_lower]
  · rw [seen_close]

/-- What all states of a search have in common. -/
structure Valid (ids : List ToolId) (next : ToolId → List ToolId) (tarjan : Tarjan) : Prop where
  inside : ∀ id, tarjan.Seen id → id ∈ ids
  onStack : ∀ id, id ∈ tarjan.onStack ↔ id ∈ tarjan.stack
  seen : ∀ id, tarjan.Seen id ↔ id ∈ tarjan.stack ∨ id ∈ tarjan.components.flatten
  distinct : (tarjan.stack ++ tarjan.components.flatten).Nodup
  descending : tarjan.stack.Pairwise (fun a b => tarjan.index b < tarjan.index a)
  bounded : ∀ id, tarjan.Seen id → tarjan.index id < tarjan.visits.length
  closed : ∀ id ∈ tarjan.components.flatten, ∀ following ∈ next id,
    following ∈ tarjan.components.flatten
  connected : ∀ component ∈ tarjan.components, component ≠ [] ∧
    ∀ a ∈ component, ∀ b, b ∈ component ↔ Leads next a b ∧ Leads next b a

/-- A link to the tool was followed from a frame with the given lowlink. -/
def Followed (tarjan : Tarjan) (lowlink : Nat) (id : ToolId) : Prop :=
  tarjan.Seen id ∧ (id ∈ tarjan.stack → lowlink ≤ tarjan.index id)

/-- The part of the stack that belongs to a call: its tool, and the finished tools above. -/
structure Frame (next : ToolId → List ToolId) (tarjan : Tarjan) (call : Call)
    (above below : List ToolId) : Prop where
  reached : ∀ id ∈ above, Leads next call.id id
  escapes : ∀ id ∈ above, ∃ target ∈ above ++ call.id :: below,
    tarjan.index target < tarjan.index id ∧ Leads next id target
  lowest : tarjan.low call.id ≤ tarjan.index call.id
  low : ∃ target ∈ call.id :: below, tarjan.index target = tarjan.low call.id ∧
    Leads next call.id target
  finished : ∀ id ∈ above, ∀ following ∈ next id,
    tarjan.Followed (tarjan.low call.id) following
  followed : ∃ done, next call.id = done ++ call.pending ∧
    ∀ following ∈ done, tarjan.Followed (tarjan.low call.id) following

inductive Framed (next : ToolId → List ToolId) (tarjan : Tarjan) :
    List Call → List ToolId → Prop
  | nil : Framed next tarjan [] []
  | cons {call : Call} {callers : List Call} {above below : List ToolId}
      (frame : Frame next tarjan call above below)
      (called : ∀ caller ∈ callers.head?, call.id ∈ next caller.id)
      (framed : Framed next tarjan callers below) :
      Framed next tarjan (call :: callers) (above ++ call.id :: below)

/-- Tools that have been discovered keep their indices, and none of them returns to the stack. -/
structure Extends (later tarjan : Tarjan) : Prop where
  seen : ∀ id, tarjan.Seen id → later.Seen id
  index : ∀ id, tarjan.Seen id → later.index id = tarjan.index id
  stack : ∀ id, tarjan.Seen id → id ∈ later.stack → id ∈ tarjan.stack

theorem Followed.mono {lowlink lower : Nat} (followed : tarjan.Followed lowlink id)
    (extended : later.Extends tarjan) (less : lower ≤ lowlink) : later.Followed lower id := by
  obtain ⟨seen, notLess⟩ := followed
  refine ⟨extended.seen id seen, fun onStack => ?_⟩
  rw [extended.index id seen]
  exact Nat.le_trans less (notLess (extended.stack id seen onStack))

theorem Frame.mono {call : Call} {above below : List ToolId}
    (frame : Frame next tarjan call above below) (extended : later.Extends tarjan)
    (seen : ∀ id ∈ above ++ call.id :: below, tarjan.Seen id)
    (low : later.low call.id = tarjan.low call.id) : Frame next later call above below := by
  have keeps : ∀ id ∈ above ++ call.id :: below, later.index id = tarjan.index id :=
    fun id member => extended.index id (seen id member)
  refine ⟨frame.reached, fun id member => ?_, ?_, ?_, fun id member following link => ?_, ?_⟩
  · obtain ⟨target, listed, less, leads⟩ := frame.escapes id member
    rw [← keeps target listed, ← keeps id (List.mem_append_left _ member)] at less
    exact ⟨target, listed, less, leads⟩
  · rw [low, keeps call.id (by simp)]
    exact frame.lowest
  · obtain ⟨target, listed, same, leads⟩ := frame.low
    rw [← low, ← keeps target (List.mem_append_right _ listed)] at same
    exact ⟨target, listed, same, leads⟩
  · exact (frame.finished id member following link).mono extended (Nat.le_of_eq low)
  · obtain ⟨done, split, followed⟩ := frame.followed
    exact ⟨done, split, fun following link =>
      (followed following link).mono extended (Nat.le_of_eq low)⟩

theorem Framed.mono {calls : List Call} {stack : List ToolId}
    (framed : Framed next tarjan calls stack) (extended : later.Extends tarjan)
    (seen : ∀ id ∈ stack, tarjan.Seen id)
    (low : ∀ call ∈ calls, later.low call.id = tarjan.low call.id) :
    Framed next later calls stack := by
  induction framed with
  | nil => exact .nil
  | cons frame called _ induction =>
    obtain ⟨lowFirst, lowRest⟩ := List.forall_mem_cons.mp low
    refine .cons (frame.mono extended seen lowFirst) called (induction (fun id member => ?_) lowRest)
    exact seen id (List.mem_append_right _ (List.mem_cons_of_mem _ member))

theorem Framed.mem {calls : List Call} {stack : List ToolId}
    (framed : Framed next tarjan calls stack) : ∀ call ∈ calls, call.id ∈ stack := by
  induction framed with
  | nil => nofun
  | cons _ _ _ induction =>
    refine List.forall_mem_cons.mpr ⟨by simp, fun call member => ?_⟩
    exact List.mem_append_right _ (List.mem_cons_of_mem _ (induction call member))

/-- The first link that was left has been followed. -/
theorem Frame.advance {pending above below : List ToolId}
    (frame : Frame next tarjan ⟨id, other :: pending⟩ above below)
    (followed : tarjan.Followed (tarjan.low id) other) :
    Frame next tarjan ⟨id, pending⟩ above below := by
  obtain ⟨done, split, earlier⟩ := frame.followed
  refine ⟨frame.reached, frame.escapes, frame.lowest, frame.low, frame.finished,
    done ++ [other], by simpa using split, fun following member => ?_⟩
  rcases List.mem_append.mp member with member | last
  · exact earlier following member
  · obtain rfl := List.mem_singleton.mp last
    exact followed

theorem Framed.advance {callers : List Call} {pending stack : List ToolId}
    (framed : Framed next tarjan (⟨id, other :: pending⟩ :: callers) stack)
    (followed : tarjan.Followed (tarjan.low id) other) :
    Framed next tarjan (⟨id, pending⟩ :: callers) stack := by
  cases framed with
  | cons frame called framed => exact .cons (frame.advance followed) called framed

theorem Framed.pending_subset {call : Call} {callers : List Call} {stack : List ToolId}
    (framed : Framed next tarjan (call :: callers) stack) : call.pending ⊆ next call.id := by
  cases framed with
  | cons frame _ _ =>
    obtain ⟨done, split, _⟩ := frame.followed
    rw [split]
    exact List.subset_append_right _ _

theorem Framed.exists_frame {call : Call} {callers : List Call} {stack : List ToolId}
    (framed : Framed next tarjan (call :: callers) stack) :
    ∃ above below, stack = above ++ call.id :: below ∧ Frame next tarjan call above below ∧
      (∀ caller ∈ callers.head?, call.id ∈ next caller.id) ∧ Framed next tarjan callers below := by
  cases framed with
  | cons frame called framed => exact ⟨_, _, rfl, frame, called, framed⟩

theorem Framed.lowest {call : Call} {callers : List Call} {stack : List ToolId}
    (framed : Framed next tarjan (call :: callers) stack) :
    tarjan.low call.id ≤ tarjan.index call.id := by
  cases framed with
  | cons frame _ _ => exact frame.lowest

theorem extends_lower (tarjan : Tarjan) (id : ToolId) (bound : Nat) :
    (tarjan.lower id bound).Extends tarjan :=
  ⟨fun _ => seen_lower.mpr, fun _ _ => index_lower, fun _ _ member => member⟩

theorem Frame.lower {call : Call} {above below : List ToolId}
    (frame : Frame next tarjan call above below)
    (seen : ∀ id ∈ above ++ call.id :: below, tarjan.Seen id)
    (reaches : bound < tarjan.low call.id → ∃ target ∈ call.id :: below,
      tarjan.index target = bound ∧ Leads next call.id target) :
    Frame next (tarjan.lower call.id bound) call above below := by
  have isLow : (tarjan.lower call.id bound).low call.id = min (tarjan.low call.id) bound :=
    low_lower_self (seen call.id (by simp))
  have less : (tarjan.lower call.id bound).low call.id ≤ tarjan.low call.id := by omega
  have extended := extends_lower tarjan call.id bound
  refine ⟨frame.reached, ?_, ?_, ?_, fun id member following link => ?_, ?_⟩
  · simpa only [index_lower] using frame.escapes
  · rw [index_lower]
    exact Nat.le_trans less frame.lowest
  · simp only [index_lower]
    by_cases lowers : bound < tarjan.low call.id
    · obtain ⟨target, listed, isBound, leads⟩ := reaches lowers
      exact ⟨target, listed, by omega, leads⟩
    · obtain ⟨target, listed, same, leads⟩ := frame.low
      exact ⟨target, listed, by omega, leads⟩
  · exact (frame.finished id member following link).mono extended less
  · obtain ⟨done, split, followed⟩ := frame.followed
    exact ⟨done, split, fun following link => (followed following link).mono extended less⟩

/-- The indices of a stack fall from its top, so they tell on which side of a tool another is. -/
theorem mem_below {above below : List ToolId}
    (descending : (above ++ id :: below).Pairwise (fun a b => tarjan.index b < tarjan.index a))
    (member : other ∈ above ++ id :: below) (notAbove : tarjan.index other ≤ tarjan.index id) :
    other ∈ id :: below := by
  rcases List.mem_append.mp member with inAbove | inBelow
  · have greater := (List.pairwise_append.mp descending).2.2 other inAbove id List.mem_cons_self
    omega
  · exact inBelow

theorem mem_above {above below : List ToolId}
    (descending : (above ++ id :: below).Pairwise (fun a b => tarjan.index b < tarjan.index a))
    (member : other ∈ above ++ id :: below) (notBelow : tarjan.index id ≤ tarjan.index other) :
    other ∈ above ++ [id] := by
  rw [← List.singleton_append, ← List.append_assoc] at member
  rcases List.mem_append.mp member with inAbove | inBelow
  · exact inAbove
  · have less := (List.pairwise_cons.mp (List.pairwise_append.mp descending).2.1).1 other inBelow
    omega

/-- Lowering the lowlink of the innermost call to the index of a tool that it reaches. -/
theorem Framed.lower {call : Call} {callers : List Call} {stack : List ToolId}
    (framed : Framed next tarjan (call :: callers) stack)
    (descending : stack.Pairwise (fun a b => tarjan.index b < tarjan.index a))
    (seen : ∀ id ∈ stack, tarjan.Seen id)
    (reaches : bound < tarjan.low call.id → ∃ target ∈ stack,
      tarjan.index target = bound ∧ Leads next call.id target) :
    Framed next (tarjan.lower call.id bound) (call :: callers) stack := by
  cases framed with
  | @cons _ _ above below frame called framed =>
    refine .cons (frame.lower seen (fun lowers => ?_)) called ?_
    · obtain ⟨target, listed, isBound, leads⟩ := reaches lowers
      have lowest := frame.lowest
      exact ⟨target, mem_below descending listed (by omega), isBound, leads⟩
    · refine framed.mono (extends_lower tarjan call.id bound) (fun id member => ?_)
        (fun caller member => low_lower ?_)
      · exact seen id (List.mem_append_right _ (List.mem_cons_of_mem _ member))
      · intro same
        have inBelow := framed.mem caller member
        have less := (List.pairwise_cons.mp (List.pairwise_append.mp descending).2.1).1 _ inBelow
        rw [same] at less
        exact Nat.lt_irrefl _ less

namespace Valid

theorem seen_of_mem (valid : Valid ids next tarjan) (member : id ∈ tarjan.stack) :
    tarjan.Seen id :=
  (valid.seen id).mpr (.inl member)

theorem lower (valid : Valid ids next tarjan) (id : ToolId) (bound : Nat) :
    Valid ids next (tarjan.lower id bound) := by
  refine ⟨fun other seen => valid.inside other (seen_lower.mp seen), valid.onStack,
    fun other => seen_lower.trans (valid.seen other), valid.distinct, ?_, fun other seen => ?_,
    valid.closed, valid.connected⟩
  · simp only [index_lower]
    exact valid.descending
  · rw [index_lower, Tarjan.lower, List.length_map]
    exact valid.bounded other (seen_lower.mp seen)

theorem discover (valid : Valid ids next tarjan) (fresh : ¬tarjan.Seen id) (member : id ∈ ids) :
    Valid ids next (tarjan.discover id) := by
  have differs : ∀ other, tarjan.Seen other → id ≠ other :=
    fun other seen same => fresh (same ▸ seen)
  refine ⟨fun other seen => ?_, fun other => ?_, fun other => ?_, ?_, ?_, fun other seen => ?_,
    valid.closed, valid.connected⟩
  · rcases seen_discover.mp seen with rfl | seen
    · exact member
    · exact valid.inside other seen
  · simp [Tarjan.discover, valid.onStack]
  · rw [seen_discover, valid.seen]
    simp [Tarjan.discover, or_assoc]
  · refine List.nodup_cons.mpr ⟨fun again => fresh ((valid.seen id).mpr ?_), valid.distinct⟩
    exact List.mem_append.mp again
  · refine List.pairwise_cons.mpr ⟨fun other onStack => ?_, ?_⟩
    · have seen := valid.seen_of_mem onStack
      rw [index_discover_self, index_discover (differs other seen)]
      exact valid.bounded other seen
    · refine valid.descending.imp_of_mem (fun inA inB less => ?_)
      rwa [index_discover (differs _ (valid.seen_of_mem inA)),
        index_discover (differs _ (valid.seen_of_mem inB))]
  · have grown : (tarjan.discover id).visits.length = tarjan.visits.length + 1 := rfl
    rcases seen_discover.mp seen with rfl | seen
    · rw [index_discover_self]
      omega
    · have less := valid.bounded other seen
      rw [index_discover (differs other seen)]
      omega

end Valid

theorem extends_discover (fresh : ¬tarjan.Seen id) : (tarjan.discover id).Extends tarjan := by
  have differs : ∀ other, tarjan.Seen other → id ≠ other :=
    fun other seen same => fresh (same ▸ seen)
  refine ⟨fun other seen => seen_discover.mpr (.inr seen),
    fun other seen => index_discover (differs other seen), fun other seen member => ?_⟩
  exact (List.mem_cons.mp member).resolve_left (Ne.symm (differs other seen))

theorem frame_discover (tarjan : Tarjan) (id : ToolId) :
    Frame next (tarjan.discover id) ⟨id, next id⟩ [] tarjan.stack := by
  have same : (tarjan.discover id).index id = (tarjan.discover id).low id := by
    rw [low_discover_self, index_discover_self]
  exact ⟨by simp, by simp, Nat.le_of_eq same.symm, ⟨id, List.mem_cons_self, same, .refl⟩,
    by simp, [], rfl, by simp⟩

/-- The state of a search: the stack is divided into the frames of the calls. -/
structure Searches (ids : List ToolId) (next : ToolId → List ToolId) (tarjan : Tarjan)
    (calls : List Call) : Prop where
  valid : Valid ids next tarjan
  framed : Framed next tarjan calls tarjan.stack

namespace Searches

variable {callers : List Call} {pending : List ToolId}

/-- The calls so far are not touched by a discovery. -/
theorem framed_discover {calls : List Call} (searches : Searches ids next tarjan calls)
    (fresh : ¬tarjan.Seen id) : Framed next (tarjan.discover id) calls tarjan.stack := by
  have valid := searches.valid
  refine searches.framed.mono (extends_discover fresh) (fun _ => valid.seen_of_mem)
    (fun caller listed => low_discover (fun same => fresh ?_))
  exact same ▸ valid.seen_of_mem (searches.framed.mem caller listed)

theorem root (searches : Searches ids next tarjan []) (fresh : ¬tarjan.Seen id)
    (member : id ∈ ids) : Searches ids next (tarjan.discover id) [⟨id, next id⟩] :=
  ⟨searches.valid.discover fresh member,
    .cons (frame_discover tarjan id) (by simp) (searches.framed_discover fresh)⟩

/-- A link to a new tool is followed by a call. -/
theorem descend (searches : Searches ids next tarjan (⟨id, other :: pending⟩ :: callers))
    (fresh : ¬tarjan.Seen other) (closed : Closed next ids) :
    Searches ids next (tarjan.discover other)
      (⟨other, next other⟩ :: ⟨id, pending⟩ :: callers) := by
  have valid := searches.valid
  have link : other ∈ next id := searches.framed.pending_subset List.mem_cons_self
  have seen := valid.seen_of_mem (searches.framed.mem _ List.mem_cons_self)
  have differs : other ≠ id := fun same => fresh (same ▸ seen)
  have followed : (tarjan.discover other).Followed ((tarjan.discover other).low id) other := by
    refine ⟨seen_discover.mpr (.inl rfl), fun _ => ?_⟩
    have lowest : tarjan.low id ≤ tarjan.index id := searches.framed.lowest
    have bounded := valid.bounded id seen
    rw [low_discover differs, index_discover_self]
    omega
  exact ⟨valid.discover fresh (closed id (valid.inside id seen) other link),
    .cons (frame_discover tarjan other) (by simpa using link)
      ((searches.framed_discover fresh).advance followed)⟩

/-- A link to a tool on the stack lowers the lowlink. -/
theorem lower (searches : Searches ids next tarjan (⟨id, other :: pending⟩ :: callers))
    (onStack : other ∈ tarjan.stack) :
    Searches ids next (tarjan.lower id (tarjan.index other)) (⟨id, pending⟩ :: callers) := by
  have valid := searches.valid
  have link : other ∈ next id := searches.framed.pending_subset List.mem_cons_self
  have seen := valid.seen_of_mem (searches.framed.mem _ List.mem_cons_self)
  have lowered := searches.framed.lower valid.descending (fun _ => valid.seen_of_mem)
    (fun _ => ⟨other, onStack, rfl, .single link⟩)
  refine ⟨valid.lower id _, lowered.advance ⟨seen_lower.mpr (valid.seen_of_mem onStack), fun _ => ?_⟩⟩
  rw [low_lower_self seen, index_lower]
  exact Nat.min_le_right _ _

/-- A link to a closed tool changes nothing. -/
theorem skip (searches : Searches ids next tarjan (⟨id, other :: pending⟩ :: callers))
    (seen : tarjan.Seen other) (closed : other ∉ tarjan.stack) :
    Searches ids next tarjan (⟨id, pending⟩ :: callers) :=
  ⟨searches.valid, searches.framed.advance ⟨seen, fun onStack => absurd onStack closed⟩⟩

end Searches

theorem popThrough_append {above : List ToolId} (below : List ToolId) (fresh : id ∉ above) :
    popThrough id (above ++ id :: below) = (above ++ [id], below) := by
  induction above with
  | nil => simp [popThrough]
  | cons first rest induction =>
    rw [List.mem_cons, not_or] at fresh
    simp [popThrough, Ne.symm fresh.1, induction fresh.2]

/-- The state after a component was taken from the stack. -/
def closed (tarjan : Tarjan) (component below : List ToolId) : Tarjan :=
  { tarjan with
    stack := below
    onStack := tarjan.onStack.filter (fun id => id ∉ component)
    components := tarjan.components ++ [component] }

theorem close_eq {above below : List ToolId} (seen : tarjan.Seen id)
    (isStack : tarjan.stack = above ++ id :: below) (fresh : id ∉ above) :
    tarjan.close id =
      if tarjan.low id = tarjan.index id then tarjan.closed (above ++ [id]) below else tarjan := by
  obtain ⟨visit, found⟩ := Option.isSome_iff_exists.mp seen
  simp only [close, found, low, index, Option.map_some, Option.getD_some, isStack,
    popThrough_append below fresh, closed]

/-- From a finished frame whose lowlink is the index of its tool, links lead to the frame itself
and to closed tools only. -/
theorem Frame.stays {above below : List ToolId} (valid : Valid ids next tarjan)
    (isStack : tarjan.stack = above ++ id :: below)
    (frame : Frame next tarjan ⟨id, []⟩ above below) (isRoot : tarjan.low id = tarjan.index id) :
    ∀ a, a ∈ above ++ [id] ∨ a ∈ tarjan.components.flatten → ∀ b ∈ next a,
      b ∈ above ++ [id] ∨ b ∈ tarjan.components.flatten := by
  have inside : ∀ a ∈ above ++ [id], ∀ b ∈ next a, tarjan.Followed (tarjan.low id) b := by
    intro a member b link
    rcases List.mem_append.mp member with inAbove | isTool
    · exact frame.finished a inAbove b link
    · obtain rfl := List.mem_singleton.mp isTool
      obtain ⟨done, split, followed⟩ := frame.followed
      refine followed b ?_
      simpa [split] using link
  rintro a (member | isClosed) b link
  · obtain ⟨seen, notLess⟩ := inside a member b link
    refine ((valid.seen b).mp seen).imp_left (fun onStack => ?_)
    refine mem_above (isStack ▸ valid.descending) (isStack ▸ onStack) ?_
    exact isRoot ▸ notLess onStack
  · exact .inr (valid.closed a isClosed b link)

/-- Such a frame is a strongly connected component. -/
theorem Frame.connected {above below : List ToolId} (valid : Valid ids next tarjan)
    (isStack : tarjan.stack = above ++ id :: below)
    (frame : Frame next tarjan ⟨id, []⟩ above below) (isRoot : tarjan.low id = tarjan.index id) :
    ∀ a ∈ above ++ [id], ∀ b, b ∈ above ++ [id] ↔ Leads next a b ∧ Leads next b a := by
  have stays := frame.stays valid isStack isRoot
  have apart : ∀ a ∈ tarjan.stack, a ∉ tarjan.components.flatten :=
    fun a member isClosed => List.disjoint_of_nodup_append valid.distinct member isClosed
  have onStack : ∀ a ∈ above ++ [id], a ∈ tarjan.stack := by
    rw [isStack]
    intro a member
    grind
  have out : ∀ a ∈ above ++ [id], Leads next id a := by
    intro a member
    rcases List.mem_append.mp member with inAbove | isTool
    · exact frame.reached a inAbove
    · obtain rfl := List.mem_singleton.mp isTool
      exact .refl
  -- by the index: a finished tool reaches one with a lesser index, and that is in the frame too
  have back : ∀ bound, ∀ a ∈ above ++ [id], tarjan.index a < bound → Leads next a id := by
    intro bound
    induction bound with
    | zero => intros; omega
    | succ bound induction =>
      intro a member less
      rcases List.mem_append.mp member with inAbove | isTool
      · obtain ⟨target, listed, lesser, leads⟩ := frame.escapes a inAbove
        have inFrame := (leads.induction stays (.inl member)).resolve_right
          (apart target (isStack ▸ listed))
        exact leads.trans (induction target inFrame (by omega))
      · obtain rfl := List.mem_singleton.mp isTool
        exact .refl
  intro a member b
  have toRoot := back _ a member (Nat.lt_succ_self _)
  constructor
  · intro other
    exact ⟨toRoot.trans (out b other), (back _ b other (Nat.lt_succ_self _)).trans (out a member)⟩
  · rintro ⟨there, returns⟩
    refine (there.induction stays (.inl member)).resolve_right (fun isClosed => ?_)
    exact apart a (onStack a member) (returns.induction valid.closed isClosed)

theorem extends_closed {component below : List ToolId} (subset : below ⊆ tarjan.stack) :
    (tarjan.closed component below).Extends tarjan :=
  ⟨fun _ seen => seen, fun _ _ => rfl, fun _ _ member => subset member⟩

theorem Valid.close {above below : List ToolId} (valid : Valid ids next tarjan)
    (isStack : tarjan.stack = above ++ id :: below)
    (frame : Frame next tarjan ⟨id, []⟩ above below) (isRoot : tarjan.low id = tarjan.index id) :
    Valid ids next (tarjan.closed (above ++ [id]) below) := by
  have flattened : (tarjan.closed (above ++ [id]) below).components.flatten =
      tarjan.components.flatten ++ (above ++ [id]) := by
    simp [Tarjan.closed]
  have distinct := valid.distinct
  rw [isStack] at distinct
  refine ⟨valid.inside, fun other => ?_, fun other => ?_, ?_, ?_, valid.bounded, ?_, ?_⟩
  · have member := valid.onStack other
    have apart := distinct.sublist (List.sublist_append_left _ _)
    rw [isStack] at member
    simp only [Tarjan.closed, List.mem_filter, member, decide_eq_true_eq]
    grind
  · have seen := valid.seen other
    rw [isStack] at seen
    rw [flattened]
    change tarjan.Seen other ↔ other ∈ below ∨ _
    rw [seen]
    grind
  · rw [flattened]
    refine List.Perm.nodup_iff ?_ |>.mpr distinct
    change (below ++ (tarjan.components.flatten ++ (above ++ [id]))).Perm _
    grind
  · have descending := valid.descending
    rw [isStack] at descending
    exact (List.pairwise_cons.mp (List.pairwise_append.mp descending).2.1).2
  · rw [flattened]
    intro a member b link
    have stays := frame.stays valid isStack isRoot a (List.mem_append.mp member).symm b link
    exact List.mem_append.mpr stays.symm
  · intro component member
    rcases List.mem_append.mp member with old | new
    · exact valid.connected component old
    · obtain rfl := List.mem_singleton.mp new
      exact ⟨by simp, frame.connected valid isStack isRoot⟩

/-- A finished frame that is not closed becomes part of the frame of its caller. -/
theorem Frame.absorb {caller : Call} {above callerAbove below : List ToolId}
    (frame : Frame next tarjan ⟨id, []⟩ above (callerAbove ++ caller.id :: below))
    (callerFrame : Frame next tarjan caller callerAbove below) (called : id ∈ next caller.id)
    (notRoot : tarjan.low id ≠ tarjan.index id) (lowers : tarjan.low caller.id ≤ tarjan.low id) :
    Frame next tarjan caller (above ++ id :: callerAbove) below := by
  have step : Leads next caller.id id := .single called
  refine ⟨fun other member => ?_, fun other member => ?_, callerFrame.lowest, callerFrame.low,
    fun other member following link => ?_, callerFrame.followed⟩
  · rcases List.mem_append.mp member with inAbove | member
    · exact step.trans (frame.reached other inAbove)
    · rcases List.mem_cons.mp member with rfl | inCaller
      · exact step
      · exact callerFrame.reached other inCaller
  · rw [List.append_assoc, List.cons_append]
    rcases List.mem_append.mp member with inAbove | member
    · exact frame.escapes other inAbove
    · rcases List.mem_cons.mp member with rfl | inCaller
      · obtain ⟨target, listed, same, leads⟩ := frame.low
        have lowest := frame.lowest
        dsimp only at listed same lowest
        exact ⟨target, List.mem_append_right _ listed, by omega, leads⟩
      · obtain ⟨target, listed, less, leads⟩ := callerFrame.escapes other inCaller
        exact ⟨target, List.mem_append_right _ (List.mem_cons_of_mem _ listed), less, leads⟩
  · have unchanged : tarjan.Extends tarjan :=
      ⟨fun _ seen => seen, fun _ _ => rfl, fun _ _ member => member⟩
    rcases List.mem_append.mp member with inAbove | member
    · exact (frame.finished other inAbove following link).mono unchanged lowers
    · rcases List.mem_cons.mp member with rfl | inCaller
      · obtain ⟨done, split, followed⟩ := frame.followed
        refine (followed following ?_).mono unchanged lowers
        simpa [split] using link
      · exact callerFrame.finished other inCaller following link

theorem Frame.low_eq_index {call : Call} {above : List ToolId}
    (frame : Frame next tarjan call above []) : tarjan.low call.id = tarjan.index call.id := by
  obtain ⟨target, listed, same, _⟩ := frame.low
  rw [List.mem_singleton.mp listed] at same
  exact same.symm

/-- A caller reaches what the finished tool reaches. -/
theorem Frame.low_of_caller {caller : ToolId} {above below : List ToolId}
    (frame : Frame next tarjan ⟨id, []⟩ above below) (called : id ∈ next caller)
    (lowest : tarjan.low caller ≤ tarjan.index caller)
    (less : tarjan.index caller < tarjan.index id) (lowers : tarjan.low id < tarjan.low caller) :
    ∃ target ∈ below, tarjan.index target = tarjan.low id ∧ Leads next caller target := by
  obtain ⟨target, listed, same, leads⟩ := frame.low
  rcases List.mem_cons.mp listed with rfl | inBelow
  · dsimp only at same
    omega
  · exact ⟨target, inBelow, same, .head called leads⟩

namespace Searches

variable {callers : List Call}

/-- A finished tool is closed with its frame, or left to its caller. -/
theorem close {above below : List ToolId} (valid : Valid ids next tarjan)
    (isStack : tarjan.stack = above ++ id :: below)
    (frame : Frame next tarjan ⟨id, []⟩ above below) (framed : Framed next tarjan callers below)
    (called : ∀ caller ∈ callers.head?, id ∈ next caller.id)
    (root : callers = [] → tarjan.low id = tarjan.index id)
    (lowers : ∀ caller ∈ callers.head?, tarjan.low caller.id ≤ tarjan.low id) :
    Searches ids next (tarjan.close id) callers := by
  have seen : tarjan.Seen id := valid.seen_of_mem (by simp [isStack])
  have fresh : id ∉ above := by
    have distinct := valid.distinct
    rw [isStack] at distinct
    grind
  rw [close_eq seen isStack fresh]
  split
  · rename_i isRoot
    have subset : below ⊆ tarjan.stack := by
      rw [isStack]
      exact fun _ member => List.mem_append_right _ (List.mem_cons_of_mem _ member)
    exact ⟨valid.close isStack frame isRoot, framed.mono (extends_closed subset)
      (fun other member => valid.seen_of_mem (subset member)) (fun _ _ => rfl)⟩
  · rename_i notRoot
    refine ⟨valid, ?_⟩
    rw [isStack]
    cases framed with
    | nil => exact absurd (root rfl) notRoot
    | cons callerFrame callerCalled framed =>
      have absorbed := frame.absorb callerFrame (called _ rfl) notRoot (lowers _ rfl)
      have whole := Framed.cons absorbed callerCalled framed
      rwa [List.append_assoc, List.cons_append] at whole

theorem finish (searches : Searches ids next tarjan (⟨id, []⟩ :: callers)) :
    Searches ids next (tarjan.finish id callers) callers := by
  obtain ⟨valid, framed⟩ := searches
  obtain ⟨above, below, isStack, frame, called, framed⟩ := framed.exists_frame
  dsimp only at isStack called
  have seen : ∀ other ∈ above ++ id :: below, tarjan.Seen other :=
    fun other member => valid.seen_of_mem (isStack ▸ member)
  have descending := valid.descending
  rw [isStack] at descending
  obtain ⟨lesser, descendingBelow⟩ := List.pairwise_cons.mp (List.pairwise_append.mp descending).2.1
  cases callers with
  | nil =>
    cases framed with
    | nil =>
      exact close valid isStack frame .nil called (fun _ => frame.low_eq_index) (by simp)
  | cons caller callers =>
    obtain ⟨done, found⟩ := Option.isSome_iff_exists.mp (seen id (by simp))
    have isLow : done.lowlink = tarjan.low id := by simp [low, found]
    have onStack : caller.id ∈ below := framed.mem caller List.mem_cons_self
    have callerSeen : tarjan.Seen caller.id :=
      seen caller.id (List.mem_append_right _ (List.mem_cons_of_mem _ onStack))
    have less := lesser caller.id onStack
    have differs : id ≠ caller.id := by
      intro same
      rw [same] at less
      exact Nat.lt_irrefl _ less
    have reaches := frame.low_of_caller (called caller rfl) framed.lowest less
    simp only [Tarjan.finish, found, isLow]
    refine close (valid.lower caller.id _) isStack
      (frame.mono (extends_lower _ _ _) seen (low_lower differs))
      (framed.lower descendingBelow (fun other member => ?_) reaches) called (by simp) ?_
    · exact seen other (List.mem_append_right _ (List.mem_cons_of_mem _ member))
    · intro first isFirst
      obtain rfl := Option.some.inj isFirst
      rw [low_lower differs, low_lower_self callerSeen]
      exact Nat.min_le_right _ _

/-- A search from any state ends with all calls finished, and forgets no tool. -/
theorem run {calls : List Call} (searches : Searches ids next tarjan calls)
    (closed : Closed next ids) :
    Searches ids next (tarjan.run next calls) [] ∧
      ∀ id, tarjan.Seen id → (tarjan.run next calls).Seen id := by
  fun_induction Tarjan.run next tarjan calls with
  | case1 tarjan => exact ⟨searches, fun _ seen => seen⟩
  | case2 tarjan id callers induction =>
    obtain ⟨ends, kept⟩ := induction searches.finish
    exact ⟨ends, fun other seen => kept other (seen_finish.mpr seen)⟩
  | case3 tarjan id following pending callers fresh _ induction =>
    have unseen : ¬tarjan.Seen following := by simp [Seen, fresh]
    obtain ⟨ends, kept⟩ := induction (searches.descend unseen closed)
    exact ⟨ends, fun other seen => kept other (seen_discover.mpr (.inr seen))⟩
  | case4 tarjan id following pending callers visit found onStack induction =>
    have isIndex : visit.index = tarjan.index following := by simp [index, found]
    rw [isIndex] at induction ⊢
    obtain ⟨ends, kept⟩ := induction (searches.lower ((searches.valid.onStack following).mp onStack))
    exact ⟨ends, fun other seen => kept other (seen_lower.mpr seen)⟩
  | case5 tarjan id following pending callers visit found notOnStack induction =>
    refine induction (searches.skip (by simp [Seen, found]) ?_)
    exact fun onStack => notOnStack ((searches.valid.onStack following).mpr onStack)

end Searches

theorem searches_start (ids : List ToolId) (next : ToolId → List ToolId) :
    Searches ids next start [] := by
  refine ⟨⟨fun id seen => ?_, ?_, fun id => ?_, .nil, .nil, fun id seen => ?_, ?_, ?_⟩, .nil⟩
  · exact absurd seen (by simp [Seen, visit?, start])
  · simp [start]
  · simp [Seen, visit?, start]
  · exact absurd seen (by simp [Seen, visit?, start])
  · simp [start]
  · simp [start]

theorem Searches.searchFrom (searches : Searches ids next tarjan []) (closed : Closed next ids)
    (member : id ∈ ids) :
    Searches ids next (tarjan.searchFrom next id) [] ∧
      ∀ other, other = id ∨ tarjan.Seen other → (tarjan.searchFrom next id).Seen other := by
  unfold Tarjan.searchFrom
  split
  · rename_i visit found
    refine ⟨searches, fun other seen => seen.elim (fun same => ?_) (fun seen => seen)⟩
    simp [Seen, same, found]
  · rename_i fresh
    obtain ⟨ends, kept⟩ := (searches.root (by simp [Seen, fresh]) member).run closed
    exact ⟨ends, fun other seen => kept other (seen_discover.mpr seen)⟩

theorem Searches.foldl {roots : List ToolId} (searches : Searches ids next tarjan [])
    (closed : Closed next ids) (inside : roots ⊆ ids) :
    Searches ids next (roots.foldl (Tarjan.searchFrom next) tarjan) [] ∧
      ∀ other, other ∈ roots ∨ tarjan.Seen other →
        (roots.foldl (Tarjan.searchFrom next) tarjan).Seen other := by
  induction roots generalizing tarjan with
  | nil => exact ⟨searches, by simp⟩
  | cons root rest induction =>
    obtain ⟨member, restInside⟩ := List.cons_subset.mp inside
    obtain ⟨searched, found⟩ := searches.searchFrom closed member
    obtain ⟨ends, kept⟩ := induction searched restInside
    refine ⟨ends, fun other seen => kept other ?_⟩
    rw [List.mem_cons, or_assoc, or_left_comm] at seen
    exact seen.imp_right (found other)

end Tarjan

/-- What it is for lists to be the strongly connected components of the tools. -/
structure AreComponents (ids : List ToolId) (next : ToolId → List ToolId)
    (found : List (List ToolId)) : Prop where
  distinct : found.flatten.Nodup
  covered : ∀ id, id ∈ found.flatten ↔ id ∈ ids
  connected : ∀ component ∈ found, component ≠ [] ∧
    ∀ a ∈ component, ∀ b, b ∈ component ↔ Leads next a b ∧ Leads next b a

theorem areComponents (closed : Closed next ids) :
    AreComponents ids next (components ids next) := by
  obtain ⟨⟨valid, framed⟩, found⟩ :=
    (Tarjan.searches_start ids next).foldl closed (List.Subset.refl ids)
  have emptied : (ids.foldl (Tarjan.searchFrom next) .start).stack = [] := by
    generalize (ids.foldl (Tarjan.searchFrom next) .start).stack = stack at framed
    cases framed
    rfl
  have seen := valid.seen
  have distinct := valid.distinct
  rw [emptied] at seen distinct
  refine ⟨distinct, fun id => ⟨fun member => ?_, fun member => ?_⟩, valid.connected⟩
  · exact valid.inside id ((seen id).mpr (.inr member))
  · exact ((seen id).mp (found id (.inl member))).resolve_left List.not_mem_nil

end Flowbook
