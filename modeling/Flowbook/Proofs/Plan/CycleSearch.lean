import Flowbook.Proofs.Plan.Tarjan

namespace Flowbook

open Relation

/-!
The cycles that the search finds are those that reachability tells, in the same
order: the components in which a tool reaches itself, each listed by a walk from
its least tool.
-/

variable {next : ToolId → List ToolId} {ids allowed stack others component : List ToolId}
  {id other : ToolId}

theorem walk_of_not_mem (skipped : ∀ id ∈ stack, id ∉ allowed) (rest : List ToolId) :
    walk next allowed (stack ++ rest) = walk next allowed rest := by
  induction stack with
  | nil => rfl
  | cons first stack induction =>
    obtain ⟨notAllowed, skipped⟩ := List.forall_mem_cons.mp skipped
    rw [List.cons_append, walk, if_neg notAllowed, induction skipped]

/-- Tools that are not allowed make no difference on the stack. -/
theorem walk_congr (same : others.filter (· ∈ allowed) = stack.filter (· ∈ allowed)) :
    walk next allowed others = walk next allowed stack := by
  fun_induction walk next allowed stack generalizing others with
  | case1 allowed =>
    have skipped : ∀ id ∈ others, id ∉ allowed := by simpa using same
    have skips : walk next allowed (others ++ []) = walk next allowed [] :=
      walk_of_not_mem skipped []
    simpa [walk] using skips
  | case2 allowed first rest member induction =>
    rw [List.filter_cons_of_pos (by simpa using member)] at same
    obtain ⟨skipped, later, rfl, none, _, sameRest⟩ := List.filter_eq_cons_iff.mp same
    rw [walk_of_not_mem (by simpa using none), walk, if_pos member]
    have erased : ∀ values : List ToolId, values.filter (· ∈ allowed.erase first) =
        (values.filter (· ∈ allowed)).filter (· ∈ allowed.erase first) := by
      intro values
      rw [List.filter_filter]
      refine List.filter_congr (fun other _ => Bool.eq_iff_iff.mpr ?_)
      simpa using fun kept => List.mem_of_mem_erase kept
    rw [induction]
    rw [List.filter_append, List.filter_append, erased later, sameRest, ← erased rest]
  | case3 allowed first rest notAllowed induction =>
    rw [List.filter_cons_of_neg (by simpa using notAllowed)] at same
    exact induction same

/-- A walk that keeps what it has placed is one that removes it from what is allowed. -/
theorem walkFrom_eq_walk {members placed : List ToolId} (distinct : members.Nodup)
    (inside : stack ⊆ members) :
    walkFrom next members placed stack = walk next (without members placed) stack := by
  fun_induction walkFrom next members placed stack with
  | case1 placed => rw [walk]
  | case2 placed first rest again induction =>
    rw [walk, if_neg (fun member => (mem_without.mp member).2 again)]
    exact induction (List.cons_subset.mp inside).2
  | case3 placed first rest fresh following induction =>
    obtain ⟨member, restInside⟩ := List.cons_subset.mp inside
    have followingInside : following ⊆ members := by
      intro other listed
      simp only [following, List.mem_filter, decide_eq_true_eq] at listed
      exact listed.2.1
    rw [walk, if_pos (mem_without.mpr ⟨member, fresh⟩), ← without_cons_eq_erase distinct,
      induction (List.append_subset.mpr ⟨followingInside, restInside⟩)]
    congr 1
    apply walk_congr
    rw [List.filter_append, List.filter_append, List.filter_filter]
    congr 1
    refine List.filter_congr (fun other _ => Bool.eq_iff_iff.mpr ?_)
    simp [mem_without]

theorem walkOrder_eq_walk (next : ToolId → List ToolId) (component : List ToolId) :
    walkOrder next component =
      walk next (ascending component) (ascending component).head?.toList := by
  have all : without (ascending component) [] = ascending component := by simp [without]
  have inside : (ascending component).head?.toList ⊆ ascending component := by
    intro id first
    exact List.mem_of_head? (Option.mem_toList.mp first)
  rw [walkOrder, walkFrom_eq_walk (nodup_of_pairwise_lt (pairwise_ascending component)) inside, all]

/-- The order of a component starts with one of its tools. -/
theorem exists_walkOrder_eq_cons (next : ToolId → List ToolId) (nonempty : component ≠ []) :
    ∃ first rest, walkOrder next component = first :: rest ∧ first ∈ component := by
  obtain ⟨id, member⟩ := List.exists_mem_of_ne_nil component nonempty
  cases sorted : ascending component with
  | nil =>
    have listed := mem_ascending.mpr member
    rw [sorted] at listed
    contradiction
  | cons first rest =>
    rw [walkOrder_eq_walk, sorted, List.head?_cons, Option.toList_some, walk,
      if_pos List.mem_cons_self]
    exact ⟨first, _, rfl, mem_ascending.mp (sorted ▸ List.mem_cons_self)⟩

theorem exists_mem_ne (distinct : component.Nodup) (several : 1 < component.length)
    (id : ToolId) : ∃ second ∈ component, second ≠ id := by
  rcases component with _ | ⟨first, _ | ⟨second, rest⟩⟩
  · contradiction
  · simp at several
  · by_cases same : first = id
    · have differs : first ≠ second := (List.pairwise_cons.mp distinct).1 second List.mem_cons_self
      exact ⟨second, by simp, fun other => differs (same.trans other.symm)⟩
    · exact ⟨first, by simp, same⟩

theorem leads_iff : Leads next id other ↔ id = other ∨ Reaches next id other := by
  rw [Leads, Reaches, reflTransGen_iff_eq_or_transGen, eq_comm]

namespace AreComponents

variable {found : List (List ToolId)}

theorem mem_iff_mutual (are : AreComponents ids next found) (listed : component ∈ found)
    (member : id ∈ component) (cyclic : Reaches next id id) :
    other ∈ component ↔ Mutual next id other := by
  rw [(are.connected component listed).2 id member, leads_iff, leads_iff, Mutual]
  constructor
  · rintro ⟨there, back⟩
    grind
  · rintro ⟨there, back⟩
    exact ⟨.inr there, .inr back⟩

/-- A component is a cycle exactly if a tool of it reaches itself. -/
theorem isCyclic_iff (are : AreComponents ids next found) (listed : component ∈ found)
    (member : id ∈ component) :
    (1 < component.length || component.any (fun id => id ∈ next id)) = true ↔
      Reaches next id id := by
  have distinct := (List.nodup_flatten.mp are.distinct).1 component listed
  have connected := (are.connected component listed).2 id member
  simp only [Bool.or_eq_true, decide_eq_true_eq, List.any_eq_true]
  constructor
  · rintro (several | ⟨looped, loopedMember, loop⟩)
    · obtain ⟨second, secondMember, differs⟩ := exists_mem_ne distinct several id
      obtain ⟨there, back⟩ := (connected second).mp secondMember
      exact ((leads_iff.mp there).resolve_left (Ne.symm differs)).trans
        ((leads_iff.mp back).resolve_left differs)
    · obtain ⟨there, back⟩ := (connected looped).mp loopedMember
      exact TransGen.trans_right there (TransGen.trans_left (.single loop) back)
  · intro cyclic
    -- the first step from the tool stays in the component, so alone the tool feeds itself
    obtain ⟨second, link, back⟩ := TransGen.head'_iff.mp cyclic
    have secondMember := (connected second).mpr ⟨.single link, back⟩
    by_cases several : 1 < component.length
    · exact .inl several
    · have same : second = id := by
        obtain ⟨only, rfl⟩ := List.length_eq_one_iff.mp
          (Nat.le_antisymm (Nat.le_of_not_lt several) (List.length_pos_of_mem member))
        rw [List.mem_singleton.mp secondMember, List.mem_singleton.mp member]
      exact .inr ⟨id, member, same ▸ link⟩

/-- A cyclic component has the companions of each of its tools. -/
theorem ascending_eq (are : AreComponents ids next found) (ordered : ids.Pairwise (· < ·))
    (closed : Closed next ids) (listed : component ∈ found) (member : id ∈ component)
    (cyclic : Reaches next id id) : ascending component = companionsOf ids next id := by
  have inside : id ∈ ids := (are.covered id).mp (List.mem_flatten.mpr ⟨component, listed, member⟩)
  refine eq_of_pairwise_lt (pairwise_ascending component) ?_ (fun other => ?_)
  · rw [companionsOf_eq]
    exact ordered.filter _
  · rw [mem_ascending, are.mem_iff_mutual listed member cyclic, mem_companionsOf closed inside]

end AreComponents

theorem cycleAt?_eq (ids : List ToolId) (next : ToolId → List ToolId) (id : ToolId) :
    cycleAt? next (ids.map (Reach.of ids next)) (Reach.of ids next id) =
      if (companionsOf ids next id).head? = some id then
        some (walk next (companionsOf ids next id) [id])
      else none :=
  rfl

/-- The cycles that the search finds, before they are sorted. -/
def cyclicOrders (ids : List ToolId) (next : ToolId → List ToolId) : List (List ToolId) :=
  ((components ids next).filter (fun component =>
    1 < component.length || component.any (fun id => id ∈ next id))).map (walkOrder next)

theorem mem_cyclicOrders (ordered : ids.Pairwise (· < ·)) (closed : Closed next ids)
    {cycle : List ToolId} : cycle ∈ cyclicOrders ids next ↔ cycle ∈ cycles ids next := by
  have are := areComponents closed
  rw [mem_cycles, cyclicOrders, List.mem_map]
  constructor
  · rintro ⟨component, cyclicComponent, rfl⟩
    obtain ⟨listed, isCyclic⟩ := List.mem_filter.mp cyclicComponent
    obtain ⟨id, member⟩ := List.exists_mem_of_ne_nil _ (are.connected component listed).1
    obtain ⟨root, isRoot⟩ : ∃ root, (ascending component).head? = some root :=
      Option.isSome_iff_exists.mp
        (List.isSome_head?.mpr (List.ne_nil_of_mem (mem_ascending.mpr member)))
    have rootMember : root ∈ component := mem_ascending.mp (List.mem_of_head? isRoot)
    have cyclic := (are.isCyclic_iff listed rootMember).mp isCyclic
    have companions := are.ascending_eq ordered closed listed rootMember cyclic
    refine ⟨root, (are.covered root).mp (List.mem_flatten.mpr ⟨component, listed, rootMember⟩), ?_⟩
    rw [companions] at isRoot
    rw [walkOrder_eq_walk, companions, isRoot, cycleAt?_eq, if_pos isRoot]
    rfl
  · rintro ⟨id, inside, made⟩
    obtain ⟨component, listed, member⟩ := List.mem_flatten.mp ((are.covered id).mpr inside)
    rw [cycleAt?_eq] at made
    split at made
    · rename_i isRoot
      cases made
      have cyclic : Reaches next id id :=
        ((mem_companionsOf closed inside).mp (List.mem_of_head? isRoot)).1
      refine ⟨component, List.mem_filter.mpr
        ⟨listed, (are.isCyclic_iff listed member).mpr cyclic⟩, ?_⟩
      rw [walkOrder_eq_walk, are.ascending_eq ordered closed listed member cyclic, isRoot]
      rfl
    · contradiction

/-- Cycles start with tools of different components. -/
theorem nodup_cyclicOrders (closed : Closed next ids) : (cyclicOrders ids next).Nodup := by
  have are := areComponents closed
  have apart := (List.nodup_flatten.mp are.distinct).2
  refine List.pairwise_map.mpr ((apart.filter _).imp_of_mem ?_)
  intro first second inFirst inSecond disjoint same
  obtain ⟨root, rest, starts, member⟩ := exists_walkOrder_eq_cons next
    (are.connected first (List.mem_filter.mp inFirst).1).1
  obtain ⟨other, others, otherStarts, otherMember⟩ := exists_walkOrder_eq_cons next
    (are.connected second (List.mem_filter.mp inSecond).1).1
  rw [starts, otherStarts] at same
  obtain ⟨rfl, _⟩ := List.cons.inj same
  exact disjoint member otherMember

theorem notAfter_iff {first second : List ToolId} :
    notAfter first second = true ↔ ¬List.Lex (· < ·) second first := by
  rw [notAfter, Bool.not_eq_true', Bool.eq_false_iff, ne_eq, List.lex_eq_true_iff_lex]
  simp

theorem pairwise_findCycles (ids : List ToolId) (next : ToolId → List ToolId) :
    (findCycles ids next).Pairwise (fun first second => ¬List.Lex (· < ·) second first) := by
  have sorted : (findCycles ids next).Pairwise (fun first second => notAfter first second = true) := by
    refine List.pairwise_mergeSort (fun a b c => ?_) (fun a b => ?_) _
    · rw [notAfter_iff, notAfter_iff, notAfter_iff]
      exact List.le_trans
    · rw [Bool.or_eq_true, notAfter_iff, notAfter_iff]
      exact List.le_total a b
  exact sorted.imp notAfter_iff.mp

/-- The search finds the cycles, in ascending order. -/
theorem findCycles_eq_cycles (ordered : ids.Pairwise (· < ·)) (closed : Closed next ids) :
    findCycles ids next = cycles ids next := by
  have ascending := (areCycles_cycles ordered closed).ascending
  have distinct : (cycles ids next).Nodup := by
    refine ascending.imp (fun {a b} less same => ?_)
    subst same
    exact List.lt_irrefl a less
  have perm : (findCycles ids next).Perm (cycles ids next) :=
    (List.mergeSort_perm (cyclicOrders ids next) notAfter).trans
      ((List.perm_ext_iff_of_nodup (nodup_cyclicOrders closed) distinct).mpr
        (fun _ => mem_cyclicOrders ordered closed))
  exact perm.eq_of_pairwise (fun _ _ _ _ => List.le_antisymm) (pairwise_findCycles ids next)
    (ascending.imp List.lt_asymm)

/-- For tools in ascending order whose links stay among them, the cycles that the search finds
are the strongly connected components with a cycle. -/
theorem areCycles_findCycles (ordered : ids.Pairwise (· < ·)) (closed : Closed next ids) :
    AreCycles ids next (findCycles ids next) := by
  rw [findCycles_eq_cycles ordered closed]
  exact areCycles_cycles ordered closed

/-- Two tools that feed each other, and one after them that feeds itself. -/
def tangled (id : ToolId) : List ToolId :=
  if id = 1 then [2] else if id = 2 then [1, 3] else if id = 3 then [3, 4] else []

theorem areCycles_findCycles_tangled :
    [1, 2, 3, 4].Pairwise (fun a b : ToolId => a < b) ∧ Closed tangled [1, 2, 3, 4] ∧
      AreCycles [1, 2, 3, 4] tangled [[1, 2], [3]] := by
  have ordered : [1, 2, 3, 4].Pairwise (fun a b : ToolId => a < b) := by decide
  have closed : Closed tangled [1, 2, 3, 4] := by simp [Closed, tangled]
  have found : findCycles [1, 2, 3, 4] tangled = [[1, 2], [3]] := by
    rw [findCycles_eq_cycles ordered closed]
    cbv
  refine ⟨ordered, closed, ?_⟩
  rw [← found]
  exact areCycles_findCycles ordered closed

end Flowbook
