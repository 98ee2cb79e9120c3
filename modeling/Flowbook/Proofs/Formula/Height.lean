import Flowbook.Proofs.Formula.Cursor

namespace Flowbook.Formula

/-!
How high the tree of a formula can be. The depth of a cursor counts the links of
a chain in front of the place it points at, and bounds what can be nested there.
It does not count what is nested in the first operand of a chain, and links
behind an operand of a chain do not count for it either. So a way that goes to
left operands can be longer than the greatest depth: every level of nesting can
add three chains, one of each level of operators, that are as long as the room
that is left.
-/

namespace Expr

mutual

/-- The most operations, calls and conditionals on a way from the root to a leaf. A binary
operator counts `link` on the way to its left operand. -/
def height (link : Nat) : Expr → Nat
  | field _ => 0
  | literal _ => 0
  | unary _ operand => height link operand + 1
  | binary _ left right => max (height link left + link) (height link right + 1)
  | logical _ operands => heightAll link operands
  | call _ args => heightAll link args + 1
  | conditional branches otherwise =>
    max (heightBranches link branches) (height link otherwise) + 1

def heightAll (link : Nat) : List Expr → Nat
  | [] => 0
  | expr :: rest => max (height link expr) (heightAll link rest)

def heightBranches (link : Nat) : List (Expr × Expr) → Nat
  | [] => 0
  | branch :: rest => max (heightBranch link branch) (heightBranches link rest)

def heightBranch (link : Nat) : Expr × Expr → Nat
  | (condition, result) => max (height link condition) (height link result)

end

/-- Left operands of binary operators have no height. -/
inductive LeansRight : Expr → Prop
  | field {name : String} : LeansRight (.field name)
  | literal {value : Literal} : LeansRight (.literal value)
  | unary {op : UnaryOp} {operand : Expr} (leans : LeansRight operand) :
      LeansRight (.unary op operand)
  | binary {op : BinaryOp} {left right : Expr} (low : left.height 1 = 0)
      (leans : LeansRight right) : LeansRight (.binary op left right)
  | logical {op : LogicalOp} {operands : List Expr}
      (lean : ∀ operand ∈ operands, LeansRight operand) : LeansRight (.logical op operands)
  | call {name : String} {args : List Expr} (lean : ∀ arg ∈ args, LeansRight arg) :
      LeansRight (.call name args)
  | conditional {branches : List (Expr × Expr)} {otherwise : Expr}
      (conditions : ∀ branch ∈ branches, LeansRight branch.1)
      (results : ∀ branch ∈ branches, LeansRight branch.2)
      (leans : LeansRight otherwise) : LeansRight (.conditional branches otherwise)

theorem heightAll_le_heightAll {exprs : List Expr} {low high : Nat}
    (each : ∀ expr ∈ exprs, expr.height low ≤ expr.height high) :
    heightAll low exprs ≤ heightAll high exprs := by
  induction exprs with
  | nil => exact Nat.le_refl _
  | cons expr exprs induction =>
      obtain ⟨first, others⟩ := List.forall_mem_cons.mp each
      have rest := induction others
      simp only [heightAll]
      omega

theorem heightBranches_le_heightBranches {branches : List (Expr × Expr)} {low high : Nat}
    (conditions : ∀ branch ∈ branches, branch.1.height low ≤ branch.1.height high)
    (results : ∀ branch ∈ branches, branch.2.height low ≤ branch.2.height high) :
    heightBranches low branches ≤ heightBranches high branches := by
  induction branches with
  | nil => exact Nat.le_refl _
  | cons branch branches induction =>
      obtain ⟨condition, conditions⟩ := List.forall_mem_cons.mp conditions
      obtain ⟨result, results⟩ := List.forall_mem_cons.mp results
      have rest := induction conditions results
      obtain ⟨test, value⟩ := branch
      simp only [heightBranches, heightBranch] at condition result ⊢
      omega

/-- A way can then turn left at its end only. -/
theorem LeansRight.height_le {tree : Expr} (leans : tree.LeansRight) :
    tree.height 1 ≤ tree.height 0 := by
  induction leans with
  | field | literal => simp only [height, Nat.le_refl]
  | unary leans induction =>
      simp only [height]
      omega
  | binary low leans induction =>
      simp only [height]
      omega
  | logical lean induction =>
      simp only [height]
      exact heightAll_le_heightAll induction
  | call lean induction =>
      simp only [height]
      exact Nat.succ_le_succ (heightAll_le_heightAll induction)
  | conditional _ _ _ conditions results otherwise =>
      have branches := heightBranches_le_heightBranches conditions results
      simp only [height]
      omega

end Expr

/-- How many levels may still be nested. -/
def Cursor.room (cursor : Cursor) : Nat :=
  maxDepth - cursor.depth

variable {cursor next : Cursor} {nested operand : Reader Expr} {link : Nat} {limit : Nat → Nat}

theorem Cursor.room_congr (same : next.depth = cursor.depth) : next.room = cursor.room := by
  rw [room, room, same]

theorem Cursor.depth_advance (cursor : Cursor) : cursor.advance.depth = cursor.depth := by
  unfold advance
  split <;> rfl

theorem Cursor.depth_expect {kind : TokenKind} {expected : Expectation}
    (passed : cursor.expect kind expected = .ok next) : next.depth = cursor.depth := by
  unfold expect at passed
  split at passed
  · cases passed
    exact cursor.depth_advance
  · contradiction

theorem Cursor.depth_descend (entered : cursor.descend = .ok next) :
    next.depth = cursor.depth + 1 ∧ cursor.depth < maxDepth := by
  unfold descend at entered
  split at entered
  · contradiction
  · rename_i shallow
    cases entered
    exact ⟨rfl, Nat.lt_of_not_le shallow⟩

theorem Cursor.room_descend (entered : cursor.descend = .ok next) :
    cursor.room = next.room + 1 ∧ next.depth ≤ maxDepth := by
  obtain ⟨deeper, shallow⟩ := depth_descend entered
  simp only [room, deeper]
  omega

/-- Reading leaves the depth as it was, and the height of what is read is limited by the room
there was. -/
def Limited (link : Nat) (limit : Nat → Nat) (reader : Reader Expr) : Prop :=
  ∀ ⦃cursor next : Cursor⦄ ⦃tree : Expr⦄, cursor.depth ≤ maxDepth →
    reader cursor = .ok (tree, next) →
    next.depth = cursor.depth ∧ tree.height link ≤ limit cursor.room

theorem arguments_limited (nestedLimited : Limited link limit nested) {bound : Nat}
    {args : List Expr} (shallow : cursor.depth ≤ maxDepth) (read : arguments nested bound cursor = .ok (args, next)) :
    next.depth = cursor.depth ∧ Expr.heightAll link args ≤ limit cursor.room := by
  induction bound generalizing cursor args with
  | zero => contradiction
  | succ bound induction =>
      rw [arguments] at read
      obtain ⟨⟨first, afterFirst⟩, readFirst, read⟩ := bind_eq_ok.mp read
      obtain ⟨sameDepth, firstLimited⟩ := nestedLimited shallow readFirst
      have advanced := afterFirst.depth_advance
      dsimp only at read
      split at read
      · obtain ⟨⟨others, last⟩, readOthers, read⟩ := bind_eq_ok.mp read
        cases read
        obtain ⟨lastDepth, othersLimited⟩ := induction (by omega) readOthers
        have sameRoom : afterFirst.advance.room = cursor.room :=
          Cursor.room_congr (by omega)
        rw [sameRoom] at othersLimited
        exact ⟨by omega, Nat.max_le.mpr ⟨firstLimited, othersLimited⟩⟩
      · cases read
        exact ⟨by omega, Nat.max_le.mpr ⟨firstLimited, Nat.zero_le _⟩⟩
      · contradiction

theorem branches_limited (nestedLimited : Limited link limit nested) {bound : Nat}
    {pairs : List (Expr × Expr)} {otherwise : Expr} (shallow : cursor.depth ≤ maxDepth)
    (read : branches nested bound cursor = .ok ((pairs, otherwise), next)) :
    next.depth = cursor.depth ∧ Expr.heightBranches link pairs ≤ limit cursor.room ∧
      otherwise.height link ≤ limit cursor.room := by
  induction bound generalizing cursor pairs with
  | zero => contradiction
  | succ bound induction =>
      rw [branches] at read
      obtain ⟨⟨condition, afterTest⟩, readTest, read⟩ := bind_eq_ok.mp read
      obtain ⟨afterThen, isThen, read⟩ := bind_eq_ok.mp read
      obtain ⟨⟨result, afterResult⟩, readResult, read⟩ := bind_eq_ok.mp read
      obtain ⟨testDepth, testLimited⟩ := nestedLimited shallow readTest
      have thenDepth := Cursor.depth_expect isThen
      obtain ⟨resultDepth, resultLimited⟩ := nestedLimited (by omega) readResult
      have advanced := afterResult.depth_advance
      dsimp only at testDepth thenDepth read
      have thenRoom : afterThen.room = cursor.room :=
        Cursor.room_congr (by omega)
      have nextRoom : afterResult.advance.room = cursor.room :=
        Cursor.room_congr (by omega)
      rw [thenRoom] at resultLimited
      have pairLimited : Expr.heightBranch link (condition, result) ≤ limit cursor.room :=
        Nat.max_le.mpr ⟨testLimited, resultLimited⟩
      split at read
      · obtain ⟨⟨⟨others, last⟩, final⟩, readOthers, read⟩ := bind_eq_ok.mp read
        cases read
        obtain ⟨finalDepth, othersLimited, lastLimited⟩ := induction (by omega) readOthers
        rw [nextRoom] at othersLimited lastLimited
        exact ⟨by omega, Nat.max_le.mpr ⟨pairLimited, othersLimited⟩, lastLimited⟩
      · obtain ⟨⟨last, afterLast⟩, readLast, read⟩ := bind_eq_ok.mp read
        obtain ⟨afterEnd, isEnd, read⟩ := bind_eq_ok.mp read
        cases read
        obtain ⟨lastDepth, lastLimited⟩ := nestedLimited (by omega) readLast
        have endDepth := Cursor.depth_expect isEnd
        dsimp only at endDepth
        rw [nextRoom] at lastLimited
        exact ⟨by omega, Nat.max_le.mpr ⟨pairLimited, Nat.zero_le _⟩, lastLimited⟩
      · contradiction

theorem primary_limited (nestedLimited : Limited link limit nested) :
    Limited link (fun room => limit room + 1) (primary nested) := by
  intro start next tree shallow read
  have advanced := start.depth_advance
  have sameRoom : start.advance.room = start.room :=
    Cursor.room_congr (by omega)
  simp only [primary] at read
  split at read
  · cases read
    exact ⟨advanced, Nat.zero_le _⟩
  · cases read
    exact ⟨advanced, Nat.zero_le _⟩
  · split at read
    · cases read
      exact ⟨advanced, Nat.zero_le _⟩
    · contradiction
  · cases read
    exact ⟨advanced, Nat.zero_le _⟩
  · cases read
    exact ⟨advanced, Nat.zero_le _⟩
  · obtain ⟨⟨⟨pairs, otherwise⟩, last⟩, readBranches, read⟩ := bind_eq_ok.mp read
    cases read
    obtain ⟨lastDepth, pairsLimited, otherwiseLimited⟩ :=
      branches_limited nestedLimited (by omega) readBranches
    rw [sameRoom] at pairsLimited otherwiseLimited
    exact ⟨by omega, Nat.succ_le_succ (Nat.max_le.mpr ⟨pairsLimited, otherwiseLimited⟩)⟩
  · obtain ⟨⟨inner, afterInner⟩, readInner, read⟩ := bind_eq_ok.mp read
    obtain ⟨last, closed, read⟩ := bind_eq_ok.mp read
    cases read
    obtain ⟨innerDepth, innerLimited⟩ := nestedLimited (by omega) readInner
    have lastDepth := Cursor.depth_expect closed
    dsimp only at lastDepth
    rw [sameRoom] at innerLimited
    exact ⟨by omega, Nat.le_succ_of_le innerLimited⟩
  · split at read
    · obtain ⟨⟨args, last⟩, readArguments, read⟩ := bind_eq_ok.mp read
      cases read
      have opened := start.advance.depth_advance
      have openedRoom : start.advance.advance.room = start.room :=
        Cursor.room_congr (by omega)
      unfold callArguments at readArguments
      split at readArguments
      · cases readArguments
        have closed := start.advance.advance.depth_advance
        dsimp only
        exact ⟨by omega, Nat.succ_le_succ (Nat.zero_le _)⟩
      · obtain ⟨lastDepth, argsLimited⟩ :=
          arguments_limited nestedLimited (by omega) readArguments
        rw [openedRoom] at argsLimited
        dsimp only
        exact ⟨by omega, Nat.succ_le_succ argsLimited⟩
    · split at read
      · cases read
        exact ⟨advanced, Nat.zero_le _⟩
      · contradiction
  · contradiction

/-- A level of nesting leaves room for one operator at least. -/
def Growing (limit : Nat → Nat) : Prop :=
  ∀ room, limit room < limit (room + 1)

theorem unaryWithin_limited (nestedLimited : Limited link limit nested) (growing : Growing limit)
    (bound : Nat) : Limited link (fun room => limit room + 1) (unaryWithin nested bound) := by
  induction bound with
  | zero => exact primary_limited nestedLimited
  | succ bound induction =>
      intro cursor next tree shallow read
      rw [unaryWithin] at read
      split at read
      · exact primary_limited nestedLimited shallow read
      · rename_i op _
        obtain ⟨inside, entered, read⟩ := bind_eq_ok.mp read
        obtain ⟨⟨operand, afterOperand⟩, readOperand, read⟩ := bind_eq_ok.mp read
        cases read
        obtain ⟨deeper, _⟩ := Cursor.depth_descend entered
        obtain ⟨lessRoom, insideShallow⟩ := Cursor.room_descend entered
        obtain ⟨sameDepth, operandLimited⟩ := induction insideShallow readOperand
        have advanced := cursor.depth_advance
        have sameRoom : cursor.advance.room = cursor.room :=
          Cursor.room_congr (by omega)
        have grows := growing inside.room
        rw [← lessRoom, sameRoom] at grows
        have ascended : afterOperand.ascend.depth = afterOperand.depth - 1 := rfl
        refine ⟨by omega, ?_⟩
        simp only [Expr.height] at operandLimited ⊢
        omega

theorem unary_limited (nestedLimited : Limited link limit nested) (growing : Growing limit) :
    Limited link (fun room => limit room + 1) (unary nested) :=
  fun _ _ _ shallow read => unaryWithin_limited nestedLimited growing _ shallow read

theorem chainLinks_limited (operandLimited : Limited link limit operand) (growing : Growing limit)
    {operator? : TokenKind → Option BinaryOp} {bound high : Nat} {left tree : Expr}
    (shallow : cursor.depth ≤ maxDepth) (leftHeight : left.height link ≤ high)
    (enough : limit cursor.room ≤ high)
    (read : chainLinks operand operator? bound left cursor = .ok (tree, next)) :
    tree.height link ≤ high + link * cursor.room := by
  -- `high` bounds the tree so far: each link raises it once and takes one level of the room
  induction bound generalizing left cursor high with
  | zero =>
      cases read
      omega
  | succ bound induction =>
      rw [chainLinks] at read
      split at read
      · cases read
        omega
      · rename_i op _
        obtain ⟨inside, entered, read⟩ := bind_eq_ok.mp read
        obtain ⟨⟨right, afterRight⟩, readRight, read⟩ := bind_eq_ok.mp read
        obtain ⟨lessRoom, insideShallow⟩ := Cursor.room_descend entered
        have advanced := inside.depth_advance
        obtain ⟨sameDepth, rightLimited⟩ := operandLimited (by omega) readRight
        have advancedRoom : inside.advance.room = inside.room :=
          Cursor.room_congr (by omega)
        have sameRoom : afterRight.room = inside.room :=
          Cursor.room_congr (by omega)
        have grows := growing inside.room
        rw [← lessRoom] at grows
        rw [advancedRoom] at rightLimited
        have linked : (Expr.binary op left right).height link ≤ high + link := by
          simp only [Expr.height]
          omega
        have result := induction (by omega) linked (by rw [sameRoom]; omega) read
        rw [sameRoom] at result
        rw [lessRoom, Nat.mul_succ]
        omega

theorem chain_limited (operandLimited : Limited link limit operand) (growing : Growing limit)
    (operator? : TokenKind → Option BinaryOp) :
    Limited link (fun room => limit room + link * room) (chain operand operator?) := by
  intro cursor next tree shallow read
  obtain ⟨⟨first, afterFirst⟩, readFirst, read⟩ := bind_eq_ok.mp read
  obtain ⟨⟨expr, afterLinks⟩, readLinks, read⟩ := bind_eq_ok.mp read
  cases read
  obtain ⟨sameDepth, firstLimited⟩ := operandLimited shallow readFirst
  have sameRoom : afterFirst.room = cursor.room :=
    Cursor.room_congr (by omega)
  have linked := chainLinks_limited operandLimited growing (by omega) firstLimited
    (by rw [sameRoom]) readLinks
  rw [sameRoom] at linked
  exact ⟨rfl, linked⟩

theorem logicalOperands_limited (operandLimited : Limited link limit operand) {op : LogicalOp}
    {bound : Nat} {others : List Expr} (shallow : cursor.depth ≤ maxDepth)
    (read : logicalOperands operand op bound cursor = .ok (others, next)) :
    next.depth = cursor.depth ∧ Expr.heightAll link others ≤ limit cursor.room := by
  induction bound generalizing cursor others with
  | zero =>
      cases read
      exact ⟨rfl, Nat.zero_le _⟩
  | succ bound induction =>
      rw [logicalOperands] at read
      split at read
      · obtain ⟨⟨first, afterFirst⟩, readFirst, read⟩ := bind_eq_ok.mp read
        obtain ⟨⟨tail, last⟩, readTail, read⟩ := bind_eq_ok.mp read
        cases read
        have advanced := cursor.depth_advance
        obtain ⟨sameDepth, firstLimited⟩ := operandLimited (by omega) readFirst
        obtain ⟨lastDepth, tailLimited⟩ := induction (by omega) readTail
        have advancedRoom : cursor.advance.room = cursor.room :=
          Cursor.room_congr (by omega)
        have sameRoom : afterFirst.room = cursor.room :=
          Cursor.room_congr (by omega)
        rw [advancedRoom] at firstLimited
        rw [sameRoom] at tailLimited
        exact ⟨by omega, Nat.max_le.mpr ⟨firstLimited, tailLimited⟩⟩
      · cases read
        exact ⟨rfl, Nat.zero_le _⟩

theorem logicalChain_limited (operandLimited : Limited link limit operand) (op : LogicalOp) :
    Limited link limit (logicalChain operand op) := by
  intro cursor next tree shallow read
  obtain ⟨⟨first, afterFirst⟩, readFirst, read⟩ := bind_eq_ok.mp read
  obtain ⟨⟨others, last⟩, readOthers, read⟩ := bind_eq_ok.mp read
  cases read
  obtain ⟨sameDepth, firstLimited⟩ := operandLimited shallow readFirst
  obtain ⟨lastDepth, othersLimited⟩ :=
    logicalOperands_limited operandLimited (by omega) readOthers
  have sameRoom : afterFirst.room = cursor.room :=
    Cursor.room_congr (by omega)
  rw [sameRoom] at othersLimited
  refine ⟨by omega, ?_⟩
  split
  · exact firstLimited
  · exact Nat.max_le.mpr ⟨firstLimited, othersLimited⟩

/-- The greatest height of a formula that is read with room for so many levels. -/
def tallest (link : Nat) : Nat → Nat
  | 0 => 0
  | room + 1 => tallest link room + 1 + link * room + link * room + link * room

theorem growing_tallest : Growing (tallest link) := by
  intro room
  rw [tallest]
  omega

theorem Growing.add_links (growing : Growing limit) :
    Growing (fun room => limit room + link * room) := by
  intro room
  have grows := growing room
  simp only [Nat.mul_succ]
  omega

theorem disjunction_limited (nestedLimited : Limited link (tallest link) nested) :
    Limited link (fun room => tallest link (room + 1)) (disjunction nested) := by
  have unaryLimited := unary_limited nestedLimited growing_tallest
  have unaryGrows : Growing (fun room => tallest link room + 1) :=
    fun room => Nat.succ_lt_succ (growing_tallest room)
  have multiplicativeLimited := chain_limited unaryLimited unaryGrows TokenKind.multiplicative?
  have additiveLimited :=
    chain_limited multiplicativeLimited unaryGrows.add_links TokenKind.additive?
  have comparisonLimited :=
    chain_limited additiveLimited unaryGrows.add_links.add_links TokenKind.comparison?
  exact logicalChain_limited (logicalChain_limited comparisonLimited .and) .or

theorem expressionWithin_limited (room : Nat) :
    Limited link (tallest link) (expressionWithin room) := by
  induction room with
  | zero =>
      intro cursor next tree _ read
      contradiction
  | succ room induction =>
      intro cursor next tree shallow read
      obtain ⟨inside, entered, read⟩ := bind_eq_ok.mp read
      obtain ⟨⟨inner, last⟩, readInner, read⟩ := bind_eq_ok.mp read
      cases read
      obtain ⟨deeper, _⟩ := Cursor.depth_descend entered
      obtain ⟨lessRoom, insideShallow⟩ := Cursor.room_descend entered
      obtain ⟨sameDepth, innerLimited⟩ := disjunction_limited induction insideShallow readInner
      have ascended : last.ascend.depth = last.depth - 1 := rfl
      rw [lessRoom]
      exact ⟨by omega, innerLimited⟩

theorem height_le_of_parse {formula : String} {tree : Expr} (accepted : parse formula = .ok tree) :
    tree.height link ≤ tallest link maxDepth := by
  obtain ⟨tokens, _, read⟩ := bind_eq_ok.mp accepted
  obtain ⟨⟨expr, last⟩, readExpr, read⟩ := bind_eq_ok.mp read
  obtain ⟨_, _, read⟩ := bind_eq_ok.mp read
  cases read
  exact (expressionWithin_limited _ (Nat.zero_le _) readExpr).2

end Flowbook.Formula
