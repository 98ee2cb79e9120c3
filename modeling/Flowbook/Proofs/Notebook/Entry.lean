import Flowbook.Notebook.Registry
import Flowbook.Proofs.Text.Line

namespace Flowbook

open Flowbook.Text

/-!
What entries of code can be, told once. Code is written as reviews, assignments
and other lines. Every text of a tool stands in it as a literal, as a column or in
a review, so each entry is one line. It also has a character that the line between
two cells has not, and it does not start like a comment unless it is a review. The
reason of a review starts with a word without underscore, and so with no handle.
-/

/-- The line between two cells. -/
def Notebook.boundary : String :=
  "# COMMAND ----------"

/-- Some character of the text does not occur in a boundary. -/
def isDistinct (text : String) : Bool :=
  text.toList.any (fun c => !Notebook.boundary.toList.contains c)

structure IsCodeLine (text : String) : Prop where
  oneLine : isOneLine text = true
  distinct : isDistinct text = true

def AreCodeLines (entries : List Entry) : Prop :=
  ∀ entry ∈ entries, IsCodeLine entry.text

/-- A text without blanks and signs of comments, as every name of a variable is. -/
def isBare (text : String) : Bool :=
  text.toList.all (fun c => !isBlank c && c != '#')

/-- Does a line start with something other than a comment? -/
def isStatement (line : String) : Bool :=
  line.toList.head?.any (· != '#')

/-- Do characters start with a word without underscore that a space ends? -/
def hasPlainWord : List Char → Bool
  | [] => false
  | c :: rest => c == ' ' || (c != '_' && hasPlainWord rest)

def opensPlainly (text : String) : Bool :=
  hasPlainWord text.toList

@[simp]
def Entry.isOrdinary : Entry → Bool
  | line text => isStatement text
  | review reason => opensPlainly reason

def AreOrdinary (entries : List Entry) : Prop :=
  ∀ entry ∈ entries, entry.isOrdinary = true

def Begins (start line : String) : Prop :=
  start.toList <+: line.toList

/-- A line of the entries starts with an assignment to the target. -/
def Assigned (entries : List Entry) (target : String) : Prop :=
  ∃ line, .line line ∈ entries ∧ Begins (target ++ " = ") line

namespace Site

/-- The handles that the code of a tool is made from are lines of code. -/
structure Tidy (site : Site) : Prop where
  stem : isOneLine site.settings.handleStem = true
  inputs : ∀ input ∈ site.inputs, IsCodeLine input.2

/-- The handles that code is made from can start a line of code. -/
structure Named (site : Site) : Prop where
  stem : isBare site.settings.handleStem = true
  inputs : ∀ input ∈ site.inputs, isStatement input.2 = true

def Arrives (site : Site) (handle : String) : Prop :=
  ∃ inlet, (inlet, handle) ∈ site.inputs

end Site

/-- The entries are reviews, assignments to the targets, in this order, and other lines. -/
inductive Writes (site : Site) : List Entry → List String → Prop
  | nil : Writes site [] []
  | review {reason : String} {entries : List Entry} {targets : List String}
      (plain : opensPlainly reason = true) (rest : Writes site entries targets) :
      Writes site (.review reason :: entries) targets
  | assign {text target : String} {entries : List Entry} {targets : List String}
      (begins : Begins (target ++ " = ") text)
      (isTarget : site.Named → isStatement target = true)
      (oneLine : site.Tidy → isOneLine text = true) (rest : Writes site entries targets) :
      Writes site (.line text :: entries) (target :: targets)
  | line {text : String} {entries : List Entry} {targets : List String}
      (isLine : site.Tidy → isOneLine text = true ∧ isDistinct text = true)
      (statement : site.Named → isStatement text = true) (rest : Writes site entries targets) :
      Writes site (.line text :: entries) targets

variable {site : Site} {entries front back : List Entry} {targets : List String}
  {text target stem : String}

section Texts

@[simp]
theorem isDistinct_append (front back : String) :
    isDistinct (front ++ back) = (isDistinct front || isDistinct back) := by
  simp [isDistinct]

@[simp]
theorem isStatement_append (start rest : String) :
    isStatement (start ++ rest) =
      (isStatement start || (start.toList.isEmpty && isStatement rest)) := by
  simp only [isStatement, String.toList_append]
  cases start.toList <;> simp

@[simp]
theorem opensPlainly_append (start rest : String) :
    opensPlainly (start ++ rest) = (opensPlainly start ||
      (start.toList.all (fun c => c != ' ' && c != '_') && opensPlainly rest)) := by
  unfold opensPlainly
  rw [String.toList_append]
  induction start.toList with
  | nil => rfl
  | cons c start induction => grind [hasPlainWord]

theorem isOneLine_handleName (oneLine : isOneLine stem = true) (id : ToolId) (outlet : Outlet) :
    isOneLine (handleName stem id outlet) = true := by
  have labels : isOneLine (lower outlet.label) = true := by
    cases outlet <;> decide +kernel
  have joint : isOneLine "_" = true := rfl
  unfold handleName
  split <;> simp [toString, oneLine, labels, joint]

@[simp]
theorem isDistinct_handleName (stem : String) (id : ToolId) (outlet : Outlet) :
    isDistinct (handleName stem id outlet) = true := by
  unfold handleName
  split <;> simp +decide

theorem isStatement_handleName (bare : isBare stem = true) (id : ToolId) (outlet : Outlet) :
    isStatement (handleName stem id outlet) = true := by
  have starts : isStatement (stem ++ "_") = true := by
    rw [isStatement, String.toList_append]
    cases chars : stem.toList with
    | nil => rfl
    | cons c rest =>
        simp only [isBare, chars, List.all_cons, Bool.and_eq_true] at bare
        simpa using bare.1.2
  unfold handleName
  split
  · rw [isStatement_append, starts, Bool.true_or]
  · rw [String.append_assoc, String.append_assoc, isStatement_append, starts, Bool.true_or]

end Texts

namespace Site

/-- Code that needs an input is only written when a handle arrives there. -/
theorem exists_source {inlet : Inlet} {follow : String → Emission}
    (emitted : (site.input inlet >>= follow) = .ok entries) :
    ∃ source, site.Arrives source ∧ follow source = .ok entries := by
  unfold input at emitted
  cases found : site.inputs.lookup inlet with
  | none =>
      rw [found] at emitted
      contradiction
  | some source =>
      rw [found] at emitted
      obtain ⟨front, back, shape, _⟩ := List.lookup_eq_some_iff.mp found
      exact ⟨source, ⟨inlet, by simp [shape]⟩, emitted⟩

theorem Tidy.output (tidy : site.Tidy) (outlet : Outlet) :
    isOneLine (site.output outlet) = true :=
  isOneLine_handleName tidy.stem site.tool.id outlet

theorem Tidy.source {source : String} (tidy : site.Tidy) (arrives : site.Arrives source) :
    IsCodeLine source := by
  obtain ⟨inlet, listed⟩ := arrives
  exact tidy.inputs _ listed

theorem Named.output (named : site.Named) (outlet : Outlet) :
    isStatement (site.output outlet) = true :=
  isStatement_handleName named.stem site.tool.id outlet

theorem Named.source {source : String} (named : site.Named) (arrives : site.Arrives source) :
    isStatement source = true := by
  obtain ⟨inlet, listed⟩ := arrives
  exact named.inputs _ listed

end Site

theorem isDistinct_of_begins (begins : Begins (target ++ " = ") text) :
    isDistinct text = true := by
  have sign : '=' ∈ text.toList := begins.subset (by simp)
  exact List.any_eq_true.mpr ⟨'=', sign, by decide +kernel⟩

theorem isStatement_of_begins (begins : Begins (target ++ " = ") text)
    (isTarget : isStatement target = true) : isStatement text = true := by
  obtain ⟨rest, shape⟩ := begins
  have same : text = target ++ " = " ++ String.ofList rest := by
    rw [← String.toList_inj, String.toList_append, String.toList_ofList, shape]
  rw [same, isStatement_append, isStatement_append, isTarget, Bool.true_or, Bool.true_or]

theorem isCodeLine_text_review (reason : String) : IsCodeLine (Entry.review reason).text := by
  unfold Entry.text reviewComment
  constructor <;> simp +decide

namespace Writes

variable {others : List String}

theorem output (outlet : Outlet) (begins : Begins (site.output outlet ++ " = ") text)
    (oneLine : site.Tidy → isOneLine text = true) (rest : Writes site entries targets) :
    Writes site (.line text :: entries) (site.output outlet :: targets) :=
  .assign begins (fun named => named.output outlet) oneLine rest

theorem append (first : Writes site front targets) (second : Writes site back others) :
    Writes site (front ++ back) (targets ++ others) := by
  induction first with
  | nil => exact second
  | review plain _ induction => exact .review plain induction
  | assign begins isTarget oneLine _ induction =>
      exact .assign begins isTarget oneLine induction
  | line isLine statement _ induction => exact .line isLine statement induction

theorem after (first : Writes site front []) (rest : Writes site back targets) :
    Writes site (front ++ back) targets :=
  first.append rest

theorem flatMap {α : Type} {items : List α} {write : α → List Entry}
    (each : ∀ item ∈ items, Writes site (write item) []) :
    Writes site (items.flatMap write) [] := by
  induction items with
  | nil => exact .nil
  | cons item items induction =>
      obtain ⟨first, rest⟩ := List.forall_mem_cons.mp each
      exact first.after (induction rest)

theorem map {α : Type} {items : List α} {write : α → Entry}
    (each : ∀ item ∈ items, Writes site [write item] []) :
    Writes site (items.map write) [] := by
  rw [List.map_eq_flatMap]
  exact flatMap each

theorem reviewUnless {fine : Prop} [Decidable fine] {reason : String}
    (plain : opensPlainly reason = true) :
    Writes site (if fine then [] else [.review reason]) [] := by
  split
  · exact .nil
  · exact .review plain .nil

-- The three things that follow for all code, each by induction on how it is written.

theorem areCodeLines (writes : Writes site entries targets) (tidy : site.Tidy) :
    AreCodeLines entries := by
  induction writes with
  | nil => exact fun _ member => absurd member List.not_mem_nil
  | review _ _ induction => exact List.forall_mem_cons.mpr ⟨isCodeLine_text_review _, induction⟩
  | assign begins _ oneLine _ induction =>
      exact List.forall_mem_cons.mpr ⟨⟨oneLine tidy, isDistinct_of_begins begins⟩, induction⟩
  | line isLine _ _ induction =>
      exact List.forall_mem_cons.mpr ⟨⟨(isLine tidy).1, (isLine tidy).2⟩, induction⟩

theorem areOrdinary (writes : Writes site entries targets) (named : site.Named) :
    AreOrdinary entries := by
  induction writes with
  | nil => exact fun _ member => absurd member List.not_mem_nil
  | review plain _ induction => exact List.forall_mem_cons.mpr ⟨plain, induction⟩
  | assign begins isTarget _ _ induction =>
      exact List.forall_mem_cons.mpr ⟨isStatement_of_begins begins (isTarget named), induction⟩
  | line _ statement _ induction =>
      exact List.forall_mem_cons.mpr ⟨statement named, induction⟩

theorem assigned (writes : Writes site entries targets) (listed : target ∈ targets) :
    Assigned entries target := by
  induction writes with
  | nil => exact absurd listed List.not_mem_nil
  | review _ _ induction =>
      obtain ⟨text, member, begins⟩ := induction listed
      exact ⟨text, List.mem_cons_of_mem _ member, begins⟩
  | assign begins _ _ _ induction =>
      cases listed with
      | head => exact ⟨_, List.mem_cons_self, begins⟩
      | tail _ later =>
          obtain ⟨text, member, begins⟩ := induction later
          exact ⟨text, List.mem_cons_of_mem _ member, begins⟩
  | line _ _ _ induction =>
      obtain ⟨text, member, begins⟩ := induction listed
      exact ⟨text, List.mem_cons_of_mem _ member, begins⟩

end Writes

end Flowbook
