import Flowbook.Proofs.Json.ReadBack

namespace Flowbook

open Flowbook.Text Flowbook.Json Flowbook.Decimal

/-!
The document of a workflow reads back as the workflow. Each part of a document
is decoded from its text alone, so what holds of parts holds of records and lists
of them.
-/

/-- The text is read as a value that is decoded as the content. -/
def Decodes {α : Type} (decode : Value → Except Json.Fault α) (text : String) (content : α) :
    Prop :=
  ∃ value, Reads text value ∧ decode value = .ok content

variable {α : Type} {decode : Value → Except Json.Fault α} {render : α → String}

theorem Decodes.decodeDocument_eq {text : String} {content : α}
    (decodes : Decodes decode text content) : decodeDocument decode text = .ok content := by
  obtain ⟨value, reads, decoded⟩ := decodes
  have whole := reads.readValue_eq (2 * text.length) [] (Nat.le_refl _) nofun
  rw [List.append_nil] at whole
  simp [decodeDocument, Json.read, whole, decoded, skipSpace, bind, Except.bind]

theorem decodes_text (text : String) : Decodes decodeText (quoteText text) text :=
  ⟨.text text, reads_quoteText text, rfl⟩

theorem decodes_id (id : Fin idBound) : Decodes decodeId (idText id) id := by
  refine ⟨.number (naturalNumber id.val), reads_natural id.val, ?_⟩
  simp [decodeId, decodeNat, Number.natural?, naturalNumber, digitsValue_toDigits]

/-- A value that may be missing is written as `null`, which stands for nothing else. -/
theorem decodes_option {fault : Json.Fault}
    (each : ∀ content, Decodes decode (render content) content)
    (notNull : decode .null = .error fault) (option : Option α) :
    Decodes (decodeOption decode) (optionText render option) option := by
  cases option with
  | none => exact ⟨.null, reads_null, rfl⟩
  | some content =>
      obtain ⟨value, reads, decoded⟩ := each content
      refine ⟨value, reads, ?_⟩
      cases value with
      | null => simp [notNull] at decoded
      | _ => simp [decodeOption, decoded, Except.map]

theorem decodes_list (each : ∀ content, Decodes decode (render content) content)
    (contents : List α) : Decodes (decodeList decode) (listText (contents.map render))
      contents := by
  have items : ∃ values, List.Forall₂ Reads (contents.map render) values ∧
      decodeItems decode values = .ok contents := by
    induction contents with
    | nil => exact ⟨[], .nil, rfl⟩
    | cons content contents induction =>
        obtain ⟨value, reads, decoded⟩ := each content
        obtain ⟨values, othersRead, othersDecoded⟩ := induction
        refine ⟨value :: values, .cons reads othersRead, ?_⟩
        simp [decodeItems, decoded, othersDecoded, bind, Except.bind]
  obtain ⟨values, reads, decoded⟩ := items
  exact ⟨.array values, reads_listText reads, decoded⟩

theorem decodes_kind (kind : ToolKind) :
    Decodes (decodeName ToolKind.ofName?) (quoteText kind.name) kind := by
  have found : ToolKind.ofName? kind.name = some kind := by
    cases kind <;> rfl
  exact ⟨.text kind.name, reads_quoteText _, by simp [decodeName, found, required]⟩

theorem trim_eq_self {text : String} (solid : ∀ c ∈ text.toList, isBlank c = false) :
    trim text = text := by
  have kept : ∀ chars : List Char, (∀ c ∈ chars, isBlank c = false) →
      chars.dropWhile isBlank = chars := by
    intro chars solid
    cases chars with
    | nil => rfl
    | cons c rest => simp [solid c List.mem_cons_self]
  have reversed : ∀ c ∈ text.toList.reverse, isBlank c = false :=
    fun c member => solid c (List.mem_reverse.mp member)
  rw [trim, trimChars, dropTrailing, kept _ solid, kept _ reversed, List.reverse_reverse,
    String.ofList_toList]

theorem decodes_outlet (outlet : Outlet) :
    Decodes decodeOutlet (quoteText outlet.label) outlet := by
  have found : Outlet.ofLabel outlet.label = .ok outlet := by
    cases outlet <;> rfl
  refine ⟨.text outlet.label, reads_quoteText _, ?_⟩
  simp [decodeOutlet, decodeText, found, bind, Except.bind]

theorem isBlank_of_isDigit {c : Char} (digit : c.isDigit = true) : isBlank c = false := by
  obtain ⟨low, high⟩ := Char.isDigit_iff_toNat.mp digit
  change 48 ≤ c.toNat at low
  change c.toNat ≤ 57 at high
  grind [isBlank]

theorem natBelow?_toDigits {bound : Nat} (number : Fin bound) :
    natBelow? bound (String.ofList (Nat.toDigits 10 number.val)) = some number := by
  obtain ⟨first, digits, shape, isDigit⟩ := exists_toDigits_eq_cons number.val
  have all : (Nat.toDigits 10 number.val).all Char.isDigit = true :=
    List.all_eq_true.mpr (digits_toDigits number.val)
  have unsigned : first ≠ '+' := by
    rintro rfl
    contradiction
  unfold natBelow?
  extract_lets chosen
  have same : chosen = Nat.toDigits 10 number.val := by
    subst chosen
    rw [String.toList_ofList, shape]
    split
    · simp_all
    · rfl
  simp [same, all, digitsValue_toDigits, Nat.toDigits_ne_nil]

theorem Inlet.ofLabel_label (inlet : Inlet) : Inlet.ofLabel inlet.label = .ok inlet := by
  cases inlet with
  | numbered number =>
      have chars : (Inlet.numbered number).label.toList = '#' :: Nat.toDigits 10 number.val := by
        simp [label, toString, Nat.toList_repr]
      have solid : ∀ c ∈ (Inlet.numbered number).label.toList, isBlank c = false := by
        rw [chars]
        exact List.forall_mem_cons.mpr
          ⟨by decide, fun c member => isBlank_of_isDigit (digits_toDigits number.val c member)⟩
      unfold ofLabel
      rw [trim_eq_self solid]
      dsimp only
      split
      iterate 4
        rename_i same
        rw [same] at chars
        simp at chars
      simp only [chars, natBelow?_toDigits]
  | _ => rfl

theorem decodes_inlet (inlet : Inlet) : Decodes decodeInlet (quoteText inlet.label) inlet := by
  refine ⟨.text inlet.label, reads_quoteText _, ?_⟩
  simp [decodeInlet, decodeText, inlet.ofLabel_label, bind, Except.bind]

theorem Properties.insertEntry_of_not_mem {key text : String} {entries : List (String × String)}
    (fresh : key ∉ entries.map Prod.fst) :
    insertEntry key text entries = entries ++ [(key, text)] := by
  induction entries with
  | nil => rfl
  | cons entry rest induction =>
      rw [List.map_cons, List.mem_cons, not_or] at fresh
      rw [insertEntry, if_neg (Ne.symm fresh.1), induction fresh.2, List.cons_append]

/-- Distinct keys are added in their order. -/
theorem addProperties_eq {depth : Nat} {properties whole : Properties}
    {rest : List (String × String)} (same : properties.entries ++ rest = whole.entries) :
    addProperties depth properties (rest.map (fun entry => (entry.1, .text entry.2))) =
      .ok whole := by
  induction rest generalizing properties with
  | nil =>
      rw [List.append_nil] at same
      cases properties
      cases same
      rfl
  | cons entry rest induction =>
      have fresh : entry.1 ∉ properties.entries.map Prod.fst := by
        have distinct := whole.distinct
        rw [← same, List.map_append, List.map_cons] at distinct
        intro member
        exact (List.nodup_append.mp distinct).2.2 _ member _ List.mem_cons_self rfl
      have added : (properties.insert entry.1 entry.2).entries ++ rest = whole.entries := by
        change Properties.insertEntry _ _ properties.entries ++ rest = _
        rw [Properties.insertEntry_of_not_mem fresh, ← same, List.append_assoc]
        rfl
      exact induction added

theorem decodes_properties (depth : Nat) (properties : Properties) :
    Decodes (decodeProperties depth) properties.document properties := by
  have whole : Properties.empty.entries ++ properties.entries = properties.entries :=
    List.nil_append _
  refine ⟨.object _, reads_objectText ?_, addProperties_eq whole⟩
  rw [List.forall₂_map_left_iff, List.forall₂_map_right_iff, List.forall₂_same]
  exact fun entry _ => ⟨rfl, reads_quoteText entry.2⟩

/-- A field that the draft does not have yet is decoded and added. -/
theorem addEntries_ofLens {σ : Type} {fields : List (RecordField σ)} {names : List String}
    {get : σ → Option α} {set : σ → Option α → σ} {draft : σ} {key : String} {value : Value}
    {content : α} {rest : List (String × Value)}
    (found : fields.find? (fun field => field.names.contains key) =
      some (.ofLens names get set decode))
    (missing : get draft = none) (decoded : decode value = .ok content) :
    addEntries fields draft ((key, value) :: rest) =
      addEntries fields (set draft (some content)) rest := by
  have added : addEntry fields draft (key, value) = .ok (set draft (some content)) := by
    rw [addEntry, found]
    simp [RecordField.ofLens, missing, decoded, Except.map]
  rw [addEntries, added]
  rfl

theorem decodes_tool (tool : Tool) : Decodes decodeTool tool.document tool := by
  obtain ⟨id, readsId, isId⟩ := decodes_id tool.id
  obtain ⟨kind, readsKind, isKind⟩ := decodes_kind tool.kind
  obtain ⟨container, readsContainer, isContainer⟩ := decodes_option decodes_id rfl tool.container
  obtain ⟨properties, readsProperties, areProperties⟩ :=
    decodes_properties propertyDepth tool.properties
  obtain ⟨remark, readsRemark, isRemark⟩ := decodes_option decodes_text rfl tool.remark
  refine ⟨.object [("id", id), ("tool_type", kind), ("container", container),
    ("properties", properties), ("annotation", remark)], reads_objectText ?_, ?_⟩
  · exact .cons ⟨rfl, readsId⟩ <| .cons ⟨rfl, readsKind⟩ <| .cons ⟨rfl, readsContainer⟩ <|
      .cons ⟨rfl, readsProperties⟩ <| .cons ⟨rfl, readsRemark⟩ .nil
  · rw [decodeTool, readDraft, addEntries_ofLens rfl rfl isId, addEntries_ofLens rfl rfl isKind,
      addEntries_ofLens rfl rfl isContainer, addEntries_ofLens rfl rfl areProperties,
      addEntries_ofLens rfl rfl isRemark]
    rfl

theorem decodes_connection (connection : Connection) :
    Decodes decodeConnection connection.document connection := by
  obtain ⟨source, readsSource, isSource⟩ := decodes_id connection.source
  obtain ⟨outlet, readsOutlet, isOutlet⟩ := decodes_outlet connection.outlet
  obtain ⟨destination, readsDestination, isDestination⟩ := decodes_id connection.destination
  obtain ⟨inlet, readsInlet, isInlet⟩ := decodes_inlet connection.inlet
  refine ⟨.object [("source", source), ("source_port", outlet), ("destination", destination),
    ("destination_port", inlet)], reads_objectText ?_, ?_⟩
  · exact .cons ⟨rfl, readsSource⟩ <| .cons ⟨rfl, readsOutlet⟩ <| .cons ⟨rfl, readsDestination⟩ <|
      .cons ⟨rfl, readsInlet⟩ .nil
  · rw [decodeConnection, readDraft, addEntries_ofLens rfl rfl isSource,
      addEntries_ofLens rfl rfl isOutlet, addEntries_ofLens rfl rfl isDestination,
      addEntries_ofLens rfl rfl isInlet]
    rfl

theorem decodes_container (container : Container) :
    Decodes decodeContainer container.document container := by
  obtain ⟨id, readsId, isId⟩ := decodes_id container.id
  obtain ⟨name, readsName, isName⟩ := decodes_text container.name
  obtain ⟨members, readsMembers, areMembers⟩ := decodes_list decodes_id container.members
  refine ⟨.object [("id", id), ("name", name), ("tools", members)], reads_objectText ?_, ?_⟩
  · exact .cons ⟨rfl, readsId⟩ <| .cons ⟨rfl, readsName⟩ <| .cons ⟨rfl, readsMembers⟩ .nil
  · rw [decodeContainer, readDraft, addEntries_ofLens rfl rfl isId,
      addEntries_ofLens rfl rfl isName, addEntries_ofLens rfl rfl areMembers]
    rfl

theorem decodes_constant (constant : Constant) :
    Decodes decodeConstant constant.document constant := by
  obtain ⟨name, readsName, isName⟩ := decodes_text constant.name
  obtain ⟨value, readsValue, isValue⟩ := decodes_text constant.value
  obtain ⟨scope, readsScope, isScope⟩ := decodes_option decodes_id rfl constant.scope
  refine ⟨.object [("name", name), ("value", value), ("scope", scope)], reads_objectText ?_, ?_⟩
  · exact .cons ⟨rfl, readsName⟩ <| .cons ⟨rfl, readsValue⟩ <| .cons ⟨rfl, readsScope⟩ .nil
  · rw [decodeConstant, readDraft, addEntries_ofLens rfl rfl isName,
      addEntries_ofLens rfl rfl isValue, addEntries_ofLens rfl rfl isScope]
    rfl

theorem decodes_workflow (workflow : Workflow) :
    Decodes decodeWorkflow workflow.document workflow := by
  obtain ⟨name, readsName, isName⟩ := decodes_text workflow.name
  obtain ⟨tools, readTools, areTools⟩ := decodes_list decodes_tool workflow.tools
  obtain ⟨connections, readConnections, areConnections⟩ :=
    decodes_list decodes_connection workflow.connections
  obtain ⟨containers, readContainers, areContainers⟩ :=
    decodes_list decodes_container workflow.containers
  obtain ⟨constants, readConstants, areConstants⟩ :=
    decodes_list decodes_constant workflow.constants
  refine ⟨.object [("name", name), ("tools", tools), ("connections", connections),
    ("containers", containers), ("constants", constants)], reads_objectText ?_, ?_⟩
  · exact .cons ⟨rfl, readsName⟩ <| .cons ⟨rfl, readTools⟩ <| .cons ⟨rfl, readConnections⟩ <|
      .cons ⟨rfl, readContainers⟩ <| .cons ⟨rfl, readConstants⟩ .nil
  · rw [decodeWorkflow, readDraft, addEntries_ofLens rfl rfl isName,
      addEntries_ofLens rfl rfl areTools, addEntries_ofLens rfl rfl areConnections,
      addEntries_ofLens rfl rfl areContainers, addEntries_ofLens rfl rfl areConstants]
    rfl

/-- The document of a workflow holds everything the workflow has. -/
theorem ofDocument_document (workflow : Workflow) :
    Workflow.ofDocument workflow.document = .ok workflow :=
  (decodes_workflow workflow).decodeDocument_eq

end Flowbook
