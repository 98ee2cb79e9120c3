namespace Flowbook

/-!
The properties of a tool: keys with texts, in the order in which the keys were
first given. No key occurs twice.
-/

structure Properties where
  entries : List (String × String)
  distinct : (entries.map Prod.fst).Nodup
deriving DecidableEq

namespace Properties

def empty : Properties :=
  ⟨[], .nil⟩

/-- Replaces the text of a key in its place, or adds the key at the end. -/
def insertEntry (key text : String) : List (String × String) → List (String × String)
  | [] => [(key, text)]
  | entry :: rest =>
    if entry.1 = key then (key, text) :: rest else entry :: insertEntry key text rest

theorem keys_insertEntry (key text : String) (entries : List (String × String)) :
    (insertEntry key text entries).map Prod.fst =
      if key ∈ entries.map Prod.fst then entries.map Prod.fst
      else entries.map Prod.fst ++ [key] := by
  induction entries with
  | nil => rfl
  | cons entry rest induction =>
    by_cases same : entry.1 = key
    · simp [insertEntry, same]
    · simp only [insertEntry, same, if_false, List.map_cons, induction, List.mem_cons,
        Ne.symm same, false_or]
      split <;> rfl

theorem distinct_insertEntry (key text : String) {entries : List (String × String)}
    (distinct : (entries.map Prod.fst).Nodup) :
    ((insertEntry key text entries).map Prod.fst).Nodup := by
  rw [keys_insertEntry]
  split
  · exact distinct
  · rename_i absent
    refine List.nodup_append.mpr ⟨distinct, by simp, ?_⟩
    intro earlier member last lastMember same
    cases List.mem_singleton.mp lastMember
    exact absent (same ▸ member)

def insert (properties : Properties) (key text : String) : Properties :=
  ⟨insertEntry key text properties.entries, distinct_insertEntry key text properties.distinct⟩

def get? (properties : Properties) (key : String) : Option String :=
  properties.entries.lookup key

def isEmpty (properties : Properties) : Bool :=
  properties.entries.isEmpty

def ofList (entries : List (String × String)) : Properties :=
  entries.foldl (fun properties entry => properties.insert entry.1 entry.2) empty

end Properties

end Flowbook
