import Flowbook.Proofs.Formula.Height
import Flowbook.Proofs.Formula.Lexing

namespace Flowbook.Formula

/-!
Formulas as high as the readers let them become. Around a formula that is as
high as its place allows stands a call, and the call is the first operand of
three chains, each with as many links as there is room for at its depth.
-/

/-- A piece of a formula with the kinds of its tokens and the tree it stands for. -/
structure Phrase where
  chars : List Char
  kinds : List TokenKind
  tree : Expr

def linkChars (symbol : Char) : Nat → List Char
  | 0 => []
  | count + 1 => symbol :: '[' :: 'A' :: ']' :: linkChars symbol count

def linkKinds (kind : TokenKind) : Nat → List TokenKind
  | 0 => []
  | count + 1 => kind :: .field "A" :: linkKinds kind count

def linkTree (op : BinaryOp) : Nat → Expr → Expr
  | 0, left => left
  | count + 1, left => linkTree op count (.binary op left (.field "A"))

namespace Phrase

def leaf : Phrase :=
  ⟨['[', 'A', ']'], [.field "A"], .field "A"⟩

def emptyCall : Phrase :=
  ⟨['F', '(', ')'], [.identifier "F", .openParenthesis, .closeParenthesis], .call "F" []⟩

def enclose (phrase : Phrase) : Phrase where
  chars := 'F' :: '(' :: (phrase.chars ++ [')'])
  kinds := .identifier "F" :: .openParenthesis :: (phrase.kinds ++ [.closeParenthesis])
  tree := .call "F" [phrase.tree]

/-- The phrase as the first operand of a chain with so many links. -/
def links (phrase : Phrase) (symbol : Char) (kind : TokenKind) (op : BinaryOp) (count : Nat) :
    Phrase where
  chars := phrase.chars ++ linkChars symbol count
  kinds := phrase.kinds ++ linkKinds kind count
  tree := linkTree op count phrase.tree

/-- The phrase at the front of a chain of each level. -/
def widen (phrase : Phrase) (products sums comparisons : Nat) : Phrase :=
  ((phrase.links '*' .star .multiply products).links '+' .plus .add sums).links
    '=' .equal .equal comparisons

end Phrase

/-- A call around a formula that is as high as `room` levels let it become. -/
def storey : Nat → Phrase
  | 0 => .emptyCall
  | room + 1 => ((storey room).widen room room room).enclose

variable {phrase : Phrase} {symbol : Symbol} {nested operand : Reader Expr} {depth count : Nat}
  {cursor : Cursor} {kind : TokenKind} {op : BinaryOp} {tier : Tier} {rest : List TokenKind}

theorem height_linkTree {left : Expr} :
    (linkTree op count left).height 1 = left.height 1 + count := by
  induction count generalizing left with
  | zero => rfl
  | succ count induction =>
      rw [linkTree, induction]
      simp only [Expr.height]
      omega

theorem Phrase.height_widen {products sums comparisons : Nat} :
    (phrase.widen products sums comparisons).tree.height 1 =
      phrase.tree.height 1 + products + sums + comparisons := by
  simp only [widen, links, height_linkTree]

theorem height_storey (room : Nat) : (storey room).tree.height 1 = tallest 1 room + 1 := by
  induction room with
  | zero => simp [storey, Phrase.emptyCall, Expr.height, Expr.heightAll, tallest]
  | succ room induction =>
      simp [storey, Phrase.enclose, Expr.height, Expr.heightAll, Phrase.height_widen, induction,
        tallest]

/-- Wherever the depth is `depth`, the reader takes the phrase and leaves what comes after it. -/
def Accepts (symbol : Symbol) (reader : Reader Expr) (depth : Nat) (phrase : Phrase) : Prop :=
  ∀ ⦃cursor : Cursor⦄ ⦃rest : List TokenKind⦄, cursor.kinds = phrase.kinds ++ rest →
    cursor.depth = depth → Stops symbol rest →
    ∃ next, reader cursor = .ok (phrase.tree, next) ∧ next.kinds = rest ∧ next.depth = depth

theorem accepts_leaf : Accepts .primary (primary nested) depth .leaf := by
  intro cursor rest front here _
  obtain ⟨shown, left⟩ := Cursor.peek_of_kinds front
  refine ⟨cursor.advance, ?_, left, cursor.depth_advance.trans here⟩
  simp only [primary, shown]
  rfl

theorem accepts_emptyCall : Accepts .primary (primary nested) depth .emptyCall := by
  intro cursor rest front here _
  obtain ⟨name, front⟩ := Cursor.peek_of_kinds front
  obtain ⟨opening, front⟩ := Cursor.peek_of_kinds front
  obtain ⟨closing, left⟩ := Cursor.peek_of_kinds front
  refine ⟨cursor.advance.advance.advance, ?_, left, by simp only [Cursor.depth_advance, here]⟩
  simp only [primary, name, if_pos opening, callArguments, if_pos closing]
  rfl

theorem peek_of_head (front : cursor.kinds = phrase.kinds ++ rest)
    (starts : phrase.kinds.head? = some kind) : cursor.peek.kind = kind := by
  obtain ⟨others, split⟩ := List.head?_eq_some_iff.mp starts
  rw [split] at front
  exact (Cursor.peek_of_kinds front).1

theorem accepts_enclose (inner : Accepts .expression nested depth phrase)
    (starts : phrase.kinds.head? = some kind) (more : kind ≠ .closeParenthesis) :
    Accepts .primary (primary nested) depth phrase.enclose := by
  intro cursor rest front here _
  obtain ⟨name, front⟩ := Cursor.peek_of_kinds front
  obtain ⟨opening, front⟩ := Cursor.peek_of_kinds front
  replace front : cursor.advance.advance.kinds = phrase.kinds ++ .closeParenthesis :: rest :=
    front.trans (List.append_assoc ..)
  have argument : cursor.advance.advance.peek.kind ≠ .closeParenthesis := by
    rwa [peek_of_head front starts]
  have inside : cursor.advance.advance.depth = depth := by
    simp only [Cursor.depth_advance, here]
  obtain ⟨next, read, left, same⟩ := inner front inside (stops_of_level_eq_zero rfl)
  obtain ⟨closing, left⟩ := Cursor.peek_of_kinds left
  have unread : cursor.advance.advance.rest.length ≠ 0 := by
    have shorter := cursor.advance.advance.length_kinds_le
    simp only [front, List.length_append, List.length_cons] at shorter
    omega
  obtain ⟨bound, length⟩ := Nat.exists_eq_succ_of_ne_zero unread
  have arguments : callArguments nested cursor.advance.advance =
      .ok ([phrase.tree], next.advance) := by
    rw [callArguments, if_neg argument, length]
    exact bind_eq_ok.mpr ⟨_, read, by simp only [closing]⟩
  refine ⟨next.advance, ?_, left, next.depth_advance.trans same⟩
  simp only [primary, name, if_pos opening]
  exact bind_eq_ok.mpr ⟨_, arguments, rfl⟩

theorem Accepts.unary (operand : Accepts .primary (primary nested) depth phrase)
    (starts : phrase.kinds.head? = some kind) (bare : kind.unary? = none) :
    Accepts .unary (Formula.unary nested) depth phrase := by
  intro cursor rest front here stops
  obtain ⟨next, read, left, same⟩ := operand front here stops
  refine ⟨next, ?_, left, same⟩
  rw [Formula.unary]
  cases cursor.rest.length with
  | zero => exact read
  | succ bound =>
      rw [unaryWithin, peek_of_head front starts, bare]
      exact read

theorem Cursor.descend_eq (shallow : cursor.depth < maxDepth) :
    cursor.descend = .ok { cursor with depth := cursor.depth + 1 } :=
  if_neg (Nat.not_le_of_lt shallow)

theorem length_linkKinds : (linkKinds kind count).length = 2 * count := by
  induction count with
  | zero => rfl
  | succ count induction =>
      simp only [linkKinds, List.length_cons, induction]
      omega

theorem stops_linkKinds (operator : (kind, op) ∈ tier.operators)
    (stops : Stops (.chain tier) rest) :
    Stops tier.operand (linkKinds kind count ++ rest) := by
  rw [Stops, Tier.level_operand]
  cases count with
  | zero => exact Nat.lt_succ_of_lt stops
  | succ count =>
      rw [linkKinds, List.cons_append, List.headD_cons, Tier.level_of_mem operator]
      exact Nat.lt_succ_self _

/-- The reader takes a field at every depth. -/
def AcceptsLeaf (symbol : Symbol) (reader : Reader Expr) : Prop :=
  ∀ depth ≤ maxDepth, Accepts symbol reader depth .leaf

theorem chainLinks_accept (leaf : AcceptsLeaf tier.operand operand)
    (operator : (kind, op) ∈ tier.operators) {bound : Nat} {left : Expr}
    (fits : cursor.depth + count ≤ maxDepth) (enough : count ≤ bound)
    (front : cursor.kinds = linkKinds kind count ++ rest) (stops : Stops (.chain tier) rest) :
    ∃ next, chainLinks operand tier.operator? bound left cursor =
      .ok (linkTree op count left, next) ∧ next.kinds = rest := by
  induction count generalizing cursor bound left with
  | zero =>
      refine ⟨cursor, ?_, front⟩
      cases bound with
      | zero => rfl
      | succ bound =>
          have last : tier.operator? cursor.peek.kind = none := by
            rw [Cursor.peek_kind, front]
            exact Tier.operator?_eq_none stops
          rw [chainLinks, last]
          rfl
  | succ count induction =>
      obtain ⟨bound, rfl⟩ : ∃ less, bound = less + 1 := ⟨bound - 1, by omega⟩
      obtain ⟨shown, front⟩ := Cursor.peek_of_kinds front
      have found := Tier.operator?_eq_some.mpr operator
      have shallow : cursor.depth < maxDepth := by omega
      have inside : ({ cursor with depth := cursor.depth + 1 } : Cursor).advance.kinds =
          Phrase.leaf.kinds ++ (linkKinds kind count ++ rest) := by
        rw [Cursor.kinds_advance] at front ⊢
        exact front
      obtain ⟨next, read, others, deeper⟩ := leaf (cursor.depth + 1) shallow inside
        (Cursor.depth_advance _) (stops_linkKinds operator stops)
      obtain ⟨last, linked, done⟩ := induction (by omega) (Nat.le_of_succ_le_succ enough) others
      refine ⟨last, ?_, done⟩
      simp only [chainLinks, shown, found, Cursor.descend_eq shallow]
      exact bind_eq_ok.mpr ⟨_, rfl, bind_eq_ok.mpr ⟨_, read, linked⟩⟩

theorem Accepts.links (tier : Tier) (symbol : Char) (operator : (kind, op) ∈ tier.operators)
    (first : Accepts tier.operand operand depth phrase)
    (leaf : AcceptsLeaf tier.operand operand) (fits : depth + count ≤ maxDepth) :
    Accepts (.chain tier) (chain operand tier.operator?) depth
      (phrase.links symbol kind op count) := by
  intro cursor rest front here stops
  replace front : cursor.kinds = phrase.kinds ++ (linkKinds kind count ++ rest) :=
    front.trans (List.append_assoc ..)
  obtain ⟨next, read, left, same⟩ := first front here (stops_linkKinds operator stops)
  have enough : count ≤ next.rest.length := by
    have shorter := next.length_kinds_le
    rw [left, List.length_append, length_linkKinds] at shorter
    omega
  obtain ⟨last, linked, done⟩ :=
    chainLinks_accept leaf operator (by omega) enough left stops
  exact ⟨{ last with depth := cursor.depth },
    bind_eq_ok.mpr ⟨_, read, bind_eq_ok.mpr ⟨_, linked, rfl⟩⟩, done, here⟩

theorem AcceptsLeaf.chain (leaf : AcceptsLeaf tier.operand operand)
    (operator : (kind, op) ∈ tier.operators) :
    AcceptsLeaf (.chain tier) (chain operand tier.operator?) := by
  intro depth shallow
  -- a field alone is a chain without links
  have alone : Accepts (.chain tier) (Formula.chain operand tier.operator?) depth
      (Phrase.leaf.links ' ' kind op 0) :=
    Accepts.links tier _ operator (leaf depth shallow) leaf shallow
  exact alone

theorem Accepts.logical {op : LogicalOp} (single : Accepts op.operand operand depth phrase) :
    Accepts (.logical op) (logicalChain operand op) depth phrase := by
  intro cursor rest front here stops
  have operandStops : Stops op.operand rest := by
    rw [Stops, LogicalOp.level_operand]
    exact Nat.lt_succ_of_lt stops
  obtain ⟨next, read, left, same⟩ := single front here operandStops
  have last : next.peek.kind ≠ op.token := by
    intro shown
    rw [Stops, ← left, ← Cursor.peek_kind, shown, LogicalOp.level_token] at stops
    exact Nat.lt_irrefl _ stops
  have none : logicalOperands operand op next.rest.length next = .ok ([], next) := by
    cases next.rest.length with
    | zero => rfl
    | succ bound => rw [logicalOperands, if_neg last]
  exact ⟨next, bind_eq_ok.mpr ⟨_, read, bind_eq_ok.mpr ⟨_, none, rfl⟩⟩, left, same⟩

theorem Accepts.widen {products sums comparisons : Nat}
    (first : Accepts .unary (Formula.unary nested) depth phrase)
    (productsFit : depth + products ≤ maxDepth) (sumsFit : depth + sums ≤ maxDepth)
    (comparisonsFit : depth + comparisons ≤ maxDepth) :
    Accepts (.logical .or) (disjunction nested) depth
      (phrase.widen products sums comparisons) := by
  have product : (TokenKind.star, BinaryOp.multiply) ∈ Tier.multiplicative.operators := .head _
  have sum : (TokenKind.plus, BinaryOp.add) ∈ Tier.additive.operators := .head _
  have comparison : (TokenKind.equal, BinaryOp.equal) ∈ Tier.comparison.operators := .head _
  have unaryLeaf : AcceptsLeaf .unary (Formula.unary nested) :=
    fun _ _ => accepts_leaf.unary rfl rfl
  have multiplicativeLeaf : AcceptsLeaf (.chain .multiplicative) (multiplicative nested) :=
    AcceptsLeaf.chain unaryLeaf product
  have additiveLeaf : AcceptsLeaf (.chain .additive) (additive nested) :=
    AcceptsLeaf.chain multiplicativeLeaf sum
  have multiplied : Accepts (.chain .multiplicative) (multiplicative nested) depth _ :=
    Accepts.links .multiplicative '*' product first unaryLeaf productsFit
  have added : Accepts (.chain .additive) (additive nested) depth _ :=
    Accepts.links .additive '+' sum multiplied multiplicativeLeaf sumsFit
  have compared : Accepts (.chain .comparison) (Formula.comparison nested) depth _ :=
    Accepts.links .comparison '=' comparison added additiveLeaf comparisonsFit
  have conjoined : Accepts (.logical .and) (conjunction nested) depth _ :=
    Accepts.logical compared
  exact Accepts.logical conjoined

theorem Accepts.expression {room : Nat}
    (inner : Accepts (.logical .or) (disjunction (expressionWithin room)) (depth + 1) phrase)
    (shallow : depth < maxDepth) :
    Accepts .expression (expressionWithin (room + 1)) depth phrase := by
  intro cursor rest front here stops
  have entered : cursor.descend = .ok { cursor with depth := cursor.depth + 1 } :=
    Cursor.descend_eq (by omega)
  have inside : ({ cursor with depth := cursor.depth + 1 } : Cursor).kinds = phrase.kinds ++ rest :=
    front
  obtain ⟨next, read, left, same⟩ := inner inside (congrArg (· + 1) here) stops
  refine ⟨next.ascend, bind_eq_ok.mpr ⟨_, entered, bind_eq_ok.mpr ⟨_, read, rfl⟩⟩, left, ?_⟩
  simp only [Cursor.ascend, same, Nat.add_sub_cancel]

theorem head_storey (room : Nat) : (storey room).kinds.head? = some (.identifier "F") := by
  cases room <;> rfl

theorem head_widen {products sums comparisons : Nat} (starts : phrase.kinds.head? = some kind) :
    (phrase.widen products sums comparisons).kinds.head? = some kind := by
  simp [Phrase.widen, Phrase.links, List.head?_append, starts]

theorem accepts_storey {room bound : Nat} (fits : depth + room ≤ maxDepth) (enough : room ≤ bound) :
    Accepts .unary (Formula.unary (expressionWithin bound)) depth (storey room) := by
  induction room generalizing depth bound with
  | zero => exact accepts_emptyCall.unary rfl rfl
  | succ room induction =>
      obtain ⟨bound, rfl⟩ : ∃ less, bound = less + 1 := ⟨bound - 1, by omega⟩
      have deeper : depth + 1 + room ≤ maxDepth := by omega
      have lower := induction deeper (show room ≤ bound by omega)
      have wide := lower.widen deeper deeper deeper
      have inner := wide.expression (by omega)
      exact (accepts_enclose inner (head_widen (head_storey room)) (by decide)).unary rfl rfl

def Phrase.Scans (phrase : Phrase) : Prop :=
  ScansTo Anything phrase.chars phrase.kinds

theorem scans_leaf : Phrase.leaf.Scans := by
  have absent : ']' ∉ "A".toList := by decide
  exact scansTo_field absent

theorem scans_call {chars : List Char} {kinds : List TokenKind}
    (inner : ScansTo Anything chars kinds) :
    ScansTo Anything ('F' :: '(' :: (chars ++ [')']))
      (.identifier "F" :: .openParenthesis :: (kinds ++ [.closeParenthesis])) := by
  have spelled : isWord "F".toList = true := by decide
  have kind : wordKind "F" = .identifier "F" := by decide +kernel
  have name := scansTo_word spelled
  rw [kind] at name
  have closed := inner.append scansTo_close (fun _ _ => trivial)
  have opened := scansTo_open.append closed (fun _ _ => trivial)
  exact name.append opened (fun _ _ => atBorder_cons (by decide))

theorem scansTo_linkChars {symbol : Char}
    (found : ∀ rest, lexeme symbol ('[' :: rest) = .ok ⟨some kind, []⟩) :
    ScansTo Anything (linkChars symbol count) (linkKinds kind count) := by
  induction count with
  | zero => exact ScansTo.nil
  | succ count induction =>
      have operator : ScansTo (fun rest => ∃ tail, rest = '[' :: tail) [symbol] [kind] := by
        refine scansTo_token ?_
        rintro _ ⟨tail, rfl⟩
        exact found tail
      have others := scans_leaf.append induction (fun _ _ => trivial)
      exact operator.append others (fun _ _ => ⟨_, rfl⟩)

theorem Phrase.Scans.links {symbol : Char} (scans : phrase.Scans)
    (found : ∀ rest, lexeme symbol ('[' :: rest) = .ok ⟨some kind, []⟩) :
    (phrase.links symbol kind op count).Scans :=
  ScansTo.append scans (scansTo_linkChars found) (fun _ _ => trivial)

theorem Phrase.Scans.widen {products sums comparisons : Nat} (scans : phrase.Scans) :
    (phrase.widen products sums comparisons).Scans :=
  ((scans.links (fun _ => rfl)).links (fun _ => rfl)).links (fun _ => rfl)

theorem scans_storey (room : Nat) : (storey room).Scans := by
  induction room with
  | zero => exact scans_call ScansTo.nil
  | succ room induction => exact scans_call induction.widen

theorem Accepts.parse_eq (whole : Accepts .expression (expressionWithin maxDepth) 0 phrase)
    (scans : phrase.Scans) :
    parse (String.ofList phrase.chars) = .ok phrase.tree := by
  have lexed : kindsOf (String.ofList phrase.chars).toList = some phrase.kinds := by
    have scanned := scans [] trivial
    rw [List.append_nil, kindsOf_nil, Option.map_some, List.append_nil] at scanned
    rw [String.toList_ofList, scanned]
  obtain ⟨tokens, front, scanned, ends, split⟩ := exists_scan_of_kindsOf lexed 0
  have kinds := ends.kinds 0
  rw [split, ← List.append_nil phrase.kinds] at kinds
  obtain ⟨last, read, left, _⟩ := whole kinds rfl Nat.zero_lt_one
  have final : last.expect .endOfInput .endOfInput = .ok last.advance := by
    rw [Cursor.expect, if_pos (Cursor.kinds_eq_nil.mp left)]
  have parsed : parseTokens tokens = .ok phrase.tree :=
    bind_eq_ok.mpr ⟨_, read, bind_eq_ok.mpr ⟨_, final, rfl⟩⟩
  exact bind_eq_ok.mpr ⟨tokens, scanned, parsed⟩

/-- A phrase at the front of three chains is a formula if it fits into the first level. -/
theorem parse_widen {products sums comparisons : Nat}
    (first : Accepts .unary (Formula.unary (expressionWithin 127)) 1 phrase) (scans : phrase.Scans)
    (productsFit : products ≤ 127) (sumsFit : sums ≤ 127) (comparisonsFit : comparisons ≤ 127) :
    parse (String.ofList (phrase.widen products sums comparisons).chars) =
      .ok (phrase.widen products sums comparisons).tree := by
  have limit : maxDepth = 128 := rfl
  have wide := first.widen (show 1 + products ≤ maxDepth by omega)
    (show 1 + sums ≤ maxDepth by omega) (show 1 + comparisons ≤ maxDepth by omega)
  exact Accepts.parse_eq (wide.expression (by decide)) scans.widen

theorem exists_storey {height : Nat} (positive : 0 < height) {room : Nat}
    (within : height ≤ tallest 1 room) :
    ∃ lower < room, tallest 1 lower < height ∧ height ≤ tallest 1 (lower + 1) := by
  induction room with
  | zero =>
      simp only [tallest] at within
      omega
  | succ room induction =>
      by_cases less : height ≤ tallest 1 room
      · obtain ⟨lower, below, bounds⟩ := induction less
        exact ⟨lower, Nat.lt_succ_of_lt below, bounds⟩
      · exact ⟨room, Nat.lt_succ_self room, Nat.lt_of_not_le less, within⟩

/-- Every height up to the greatest is the height of a formula. -/
theorem exists_parse_of_height {height : Nat} (within : height ≤ tallest 1 maxDepth) :
    ∃ formula tree, parse formula = .ok tree ∧ tree.height 1 = height := by
  by_cases positive : 0 < height
  · obtain ⟨room, below, above, enough⟩ := exists_storey positive within
    have limit : maxDepth = 128 := rfl
    -- The links still missing fill up one chain after the other.
    obtain ⟨products, sums, comparisons, total, bounds⟩ : ∃ products sums comparisons,
        tallest 1 room + 1 + products + sums + comparisons = height ∧
          products ≤ 127 ∧ sums ≤ 127 ∧ comparisons ≤ 127 := by
      simp only [tallest] at enough
      have missing : height - tallest 1 room - 1 ≤ 3 * room := by omega
      refine ⟨min room (height - tallest 1 room - 1),
        min room (height - tallest 1 room - 1 - room),
        height - tallest 1 room - 1 - room - room, ?_, ?_, ?_, ?_⟩ <;> omega
    refine ⟨_, _, parse_widen (accepts_storey (by omega) (show room ≤ 127 by omega))
      (scans_storey room) bounds.1 bounds.2.1 bounds.2.2, ?_⟩
    rw [Phrase.height_widen, height_storey, total]
  · have leaf := parse_widen (accepts_leaf.unary rfl rfl) scans_leaf (Nat.zero_le _) (Nat.zero_le _)
      (Nat.zero_le 127)
    refine ⟨_, _, leaf, ?_⟩
    rw [Nat.eq_zero_of_not_pos positive]
    rfl

/-- The limit of 128 levels bounds the ways from the root to a leaf if going to a left operand does
not count, and so it bounds the whole height of a tree that leans right. If everything counts,
then exactly the heights up to 24512 occur. A phrase beyond these bounds is refused for its
nesting. -/
theorem parse_height (formula : String) :
    (∀ tree, parse formula = .ok tree →
      tree.height 0 ≤ 128 ∧ (tree.LeansRight → tree.height 1 ≤ 128)) ∧
    (∀ kinds tree, kindsOf formula.toList = some kinds → Derives .expression kinds [] tree →
      128 < tree.height 0 ∨ 24512 < tree.height 1 →
      ∃ error, parse formula = .error error ∧ error.expected = .shallowerNesting) ∧
    ∀ height, (∃ accepted tree, parse accepted = .ok tree ∧ tree.height 1 = height) ↔
      height ≤ 24512 := by
  have leftFree : tallest 0 maxDepth = 128 := by decide +kernel
  have full : tallest 1 maxDepth = 24512 := by decide +kernel
  refine ⟨fun tree accepted => ?_, fun kinds tree lexed phrase high => ?_, fun height => ?_⟩
  · have bound : tree.height 0 ≤ tallest 0 maxDepth := height_le_of_parse accepted
    rw [leftFree] at bound
    exact ⟨bound, fun leans => leans.height_le.trans bound⟩
  · rcases parse_of_derives lexed phrase with accepted | refused
    · have bound : tree.height 0 ≤ tallest 0 maxDepth := height_le_of_parse accepted
      have fullBound : tree.height 1 ≤ tallest 1 maxDepth := height_le_of_parse accepted
      omega
    · exact refused
  · rw [← full]
    constructor
    · rintro ⟨accepted, tree, parsed, rfl⟩
      exact height_le_of_parse parsed
    · exact exists_parse_of_height

/-- Sixty-four products in front of sixty-five sums are accepted, though all of these operators
lie on one way. -/
theorem parse_products_in_sums :
    parse (String.ofList (Phrase.leaf.widen 64 65 0).chars) =
      .ok (Phrase.leaf.widen 64 65 0).tree ∧
    (Phrase.leaf.widen 64 65 0).tree.height 1 = 129 := by
  refine ⟨parse_widen (accepts_leaf.unary rfl rfl) scans_leaf (by decide) (by decide) (by decide),
    ?_⟩
  rw [Phrase.height_widen]
  rfl

end Flowbook.Formula
