import Flowbook.Notebook.Registry
import Flowbook.Proofs.Pattern.Escape
import Flowbook.Proofs.Text.Quoted

namespace Flowbook

open Flowbook.Text

/-!
Finding and replacing a text that is no pattern. The call in the notebook holds
a pattern of literals that spell what is looked for, and a replacement without
references that spells what is put in its place.
-/

/-- A part of a replacement: a character, or a reference to a group of the pattern. -/
inductive ReplacementPart where
  | char (c : Char)
  | reference
deriving DecidableEq

/-- The parts of a replacement. A character after a backslash stands for itself, and without a
backslash a dollar sign starts a reference. -/
def replacementParts? : List Char → Option (List ReplacementPart)
  | [] => some []
  | ['\\'] => none
  | '\\' :: c :: rest => (replacementParts? rest).map (.char c :: ·)
  | c :: rest => (replacementParts? rest).map ((if c = '$' then .reference else .char c) :: ·)

/-- Puts a backslash before each occurrence of a character. -/
def markWithBackslash (marked : Char) (chars : List Char) : List Char :=
  chars.flatMap (fun c => if c = marked then ['\\', c] else [c])

namespace Emitter

/-- The backslashes that are put before dollar signs are not marked themselves. -/
theorem toList_literalReplacement (text : String) :
    (literalReplacement text).toList =
      markWithBackslash '$' (markWithBackslash '\\' text.toList) := by
  rw [literalReplacement, String.toList_ofList, markWithBackslash, markWithBackslash,
    List.flatMap_assoc]
  congr 1
  funext c
  by_cases isSlash : c = '\\'
  · subst isSlash
    rfl
  · by_cases isDollar : c = '$' <;> simp [isSlash, isDollar]

theorem replacementParts?_literalReplacement (text : String) :
    replacementParts? (literalReplacement text).toList = some (text.toList.map .char) := by
  rw [literalReplacement, String.toList_ofList]
  induction text.toList with
  | nil => rfl
  | cons c chars induction =>
      rw [List.flatMap_cons]
      split
      case isTrue isSlash =>
        rw [List.cons_append, List.cons_append, replacementParts?, List.nil_append, induction,
          isSlash]
        rfl
      case isFalse notSlash =>
        split
        case isTrue isDollar =>
          rw [List.cons_append, List.cons_append, replacementParts?, List.nil_append, induction,
            isDollar]
          rfl
        case isFalse notDollar =>
          rw [List.cons_append, replacementParts?, List.nil_append, induction, if_neg notDollar]
          · rfl
          · rintro rfl
            contradiction
          · rintro _ _ rfl
            contradiction

theorem assignChain_singleton (target base call : String) :
    assignChain target base [call] = [.line (target ++ " = " ++ base ++ "." ++ call)] := by
  unfold assignChain
  simp only [toString]

/-- A text that is no pattern is found and replaced as it is. -/
theorem findReplace_literal_arguments [PatternEngine] (site : Site)
    (field find replace : String) :
    ∃ emitter pattern replacement, Registry.default .findReplace = some emitter ∧
      emitter { site with configuration := .findReplace field find replace false } =
        (site.input .plain).map (fun source => [.line (site.output .plain ++ " = " ++ source ++
          "." ++ withColumn field ("F.regexp_replace(" ++ namedColumn field ++ ", " ++ pattern ++
            ", " ++ replacement ++ ")"))]) ∧
      (∃ chars, (∀ rest, decodeLiteral (pattern.toList ++ rest) = some (chars, rest)) ∧
        Pattern.plainText? chars = some find.toList ∧
        ∃ tree, Pattern.read (String.ofList chars) = .ok tree ∧
          tree.spelled? = some find.toList) ∧
      ∃ chars, (∀ rest, decodeLiteral (replacement.toList ++ rest) = some (chars, rest)) ∧
        chars = markWithBackslash '$' (markWithBackslash '\\' replace.toList) ∧
        replacementParts? chars = some (replace.toList.map .char) := by
  refine ⟨findReplace, quote (Pattern.escapeText find), quote (literalReplacement replace), rfl,
    ?_, ⟨_, decodeLiteral_quote _, Pattern.plainText?_escapeText find, ?_⟩,
    ⟨_, decodeLiteral_quote _, toList_literalReplacement replace,
      replacementParts?_literalReplacement replace⟩⟩
  · -- The configuration has no part in what arrives and in the handle that is bound.
    change (site.input .plain >>= fun source => .ok (assignChain _ source
      [withColumn field (regexpReplace field _ _)])) = _
    cases site.input .plain with
    | error fault => rfl
    | ok source =>
        change Except.ok (assignChain _ _ [_]) = Except.ok _
        rw [assignChain_singleton]
        rfl
  · rw [String.ofList_toList]
    exact Pattern.read_escapeText find

end Emitter

end Flowbook
