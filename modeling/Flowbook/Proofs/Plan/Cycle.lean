import Mathlib.Data.List.Nodup
import Mathlib.Logic.Relation
import Flowbook.Plan.Cycle
import Flowbook.Proofs.Plan.Links

namespace Flowbook

open Relation

/-!
The cycles of tools, told by reachability: two tools are on one cycle if each can
be reached from the other. A walk visits exactly what can be reached inside the
allowed tools, so descendants are reachability, companions are mutual
reachability, and a walk inside the companions of a tool visits all of them.
-/

/-- A walk from the tools on the stack that stays within the allowed tools. It goes on
from each tool first to what follows that tool, and visits no tool twice. -/
def walk (next : ToolId → List ToolId) (allowed stack : List ToolId) : List ToolId :=
  match stack with
  | [] => []
  | id :: rest =>
    if id ∈ allowed then id :: walk next (allowed.erase id) (next id ++ rest)
    else walk next allowed rest
termination_by (allowed.length, stack.length)
decreasing_by
  · rename_i member
    exact Prod.Lex.left _ _ (length_erase_lt member)
  · exact Prod.Lex.right _ (by simp)

/-- The tools that can be reached from a tool by one link or more. -/
def descendants (ids : List ToolId) (next : ToolId → List ToolId) (id : ToolId) : List ToolId :=
  walk next ids (next id)

/-- A tool, and the tools that can be reached from it. -/
structure Reach where
  id : ToolId
  below : List ToolId

def Reach.of (ids : List ToolId) (next : ToolId → List ToolId) (id : ToolId) : Reach :=
  ⟨id, descendants ids next id⟩

/-- The tools on one cycle with a tool: each can be reached from the other. There are none if
the tool is on no cycle. -/
def Reach.companions (reach : Reach) (reaches : List Reach) : List ToolId :=
  (reaches.filter (fun other => other.id ∈ reach.below ∧ reach.id ∈ other.below)).map Reach.id

/-- The cycle whose least tool is the given one, if there is such a cycle. -/
def cycleAt? (next : ToolId → List ToolId) (reaches : List Reach) (reach : Reach) :
    Option (List ToolId) :=
  let members := reach.companions reaches
  if members.head? = some reach.id then some (walk next members [reach.id]) else none

/-- All cycles of the tools, whose ids are given in ascending order, by ascending least
tools. -/
def cycles (ids : List ToolId) (next : ToolId → List ToolId) : List (List ToolId) :=
  let reaches := ids.map (Reach.of ids next)
  reaches.filterMap (cycleAt? next reaches)

variable {next : ToolId → List ToolId} {ids allowed stack : List ToolId} {id other : ToolId}

/-- One tool can be reached from another along one link or more. -/
def Reaches (next : ToolId → List ToolId) : ToolId → ToolId → Prop :=
  TransGen (fun a b => b ∈ next a)

/-- A link to an allowed tool. -/
def StepWithin (next : ToolId → List ToolId) (allowed : List ToolId) (a b : ToolId) : Prop :=
  b ∈ next a ∧ b ∈ allowed

/-- A tool can be reached from one of the starting tools through allowed tools only. -/
def ReachedFrom (next : ToolId → List ToolId) (allowed starts : List ToolId)
    (id : ToolId) : Prop :=
  ∃ start ∈ starts, start ∈ allowed ∧ ReflTransGen (StepWithin next allowed) start id

theorem ReachedFrom.inside (reached : ReachedFrom next allowed stack id) : id ∈ allowed := by
  obtain ⟨start, _, startAllowed, path⟩ := reached
  cases path with
  | refl => exact startAllowed
  | tail _ step => exact step.2

theorem ReachedFrom.mono {more starts : List ToolId} (reached : ReachedFrom next allowed stack id)
    (larger : allowed ⊆ more) (started : ∀ start ∈ stack, start ∈ allowed →
      ReachedFrom next more starts start) :
    ReachedFrom next more starts id := by
  obtain ⟨start, member, startAllowed, path⟩ := reached
  obtain ⟨origin, originMember, originAllowed, front⟩ := started start member startAllowed
  refine ⟨origin, originMember, originAllowed, front.trans (ReflTransGen.mono ?_ _ _ path)⟩
  exact fun _ _ step => ⟨step.1, larger step.2⟩

/-- What can be reached without passing through a tool that was visited already. -/
theorem ReachedFrom.avoid (reached : ReachedFrom next allowed (other :: stack) id)
    (differs : id ≠ other) :
    ReachedFrom next (allowed.erase other) (next other ++ stack) id := by
  obtain ⟨start, member, startAllowed, path⟩ := reached
  induction path with
  | refl =>
    have inRest := (List.mem_cons.mp member).resolve_left differs
    exact ⟨start, List.mem_append_right _ inRest,
      (List.mem_erase_of_ne differs).mpr startAllowed, .refl⟩
  | @tail middle last _ step induction =>
    have stillAllowed : last ∈ allowed.erase other :=
      (List.mem_erase_of_ne differs).mpr step.2
    by_cases same : middle = other
    · -- the path enters the rest of the graph anew, from the visited tool
      subst same
      exact ⟨last, List.mem_append_left _ step.1, stillAllowed, .refl⟩
    · obtain ⟨origin, originMember, originAllowed, front⟩ := induction same
      exact ⟨origin, originMember, originAllowed, front.tail ⟨step.1, stillAllowed⟩⟩

theorem mem_walk : id ∈ walk next allowed stack ↔ ReachedFrom next allowed stack id := by
  fun_induction walk next allowed stack with
  | case1 allowed => simp [ReachedFrom]
  | case2 allowed first rest member induction =>
    rw [List.mem_cons, induction]
    constructor
    · rintro (rfl | reached)
      · exact ⟨id, List.mem_cons_self, member, .refl⟩
      · refine reached.mono (List.erase_subset) (fun start starts startAllowed => ?_)
        have stillAllowed := List.mem_of_mem_erase startAllowed
        rcases List.mem_append.mp starts with follows | waiting
        · exact ⟨first, List.mem_cons_self, member, .single ⟨follows, stillAllowed⟩⟩
        · exact ⟨start, List.mem_cons_of_mem _ waiting, stillAllowed, .refl⟩
    · intro reached
      by_cases same : id = first
      · exact .inl same
      · exact .inr (reached.avoid same)
  | case3 allowed first rest notAllowed induction =>
    rw [induction]
    constructor
    · rintro ⟨start, member, startAllowed, path⟩
      exact ⟨start, List.mem_cons_of_mem _ member, startAllowed, path⟩
    · rintro ⟨start, member, startAllowed, path⟩
      rcases List.mem_cons.mp member with rfl | member
      · exact absurd startAllowed notAllowed
      · exact ⟨start, member, startAllowed, path⟩

theorem nodup_walk (distinct : allowed.Nodup) : (walk next allowed stack).Nodup := by
  fun_induction walk next allowed stack with
  | case1 allowed => exact .nil
  | case2 allowed first rest member induction =>
    refine List.nodup_cons.mpr ⟨fun again => ?_, induction (distinct.erase first)⟩
    exact distinct.not_mem_erase (mem_walk.mp again).inside
  | case3 allowed first rest notAllowed induction => exact induction distinct

/-- Every tool of a walk is on the stack, or follows a tool visited earlier. -/
theorem walk_follows {before after : List ToolId}
    (split : walk next allowed stack = before ++ id :: after) :
    id ∈ stack ∨ ∃ earlier ∈ before, id ∈ next earlier := by
  fun_induction walk next allowed stack generalizing before with
  | case1 allowed => simp at split
  | case2 allowed first rest member induction =>
    cases before with
    | nil =>
      obtain ⟨rfl, _⟩ := List.cons.inj split
      exact .inl List.mem_cons_self
    | cons head before =>
      obtain ⟨rfl, splitRest⟩ := List.cons.inj split
      rcases induction splitRest with starts | ⟨earlier, visited, follows⟩
      · rcases List.mem_append.mp starts with follows | waiting
        · exact .inr ⟨first, List.mem_cons_self, follows⟩
        · exact .inl (List.mem_cons_of_mem _ waiting)
      · exact .inr ⟨earlier, List.mem_cons_of_mem _ visited, follows⟩
  | case3 allowed first rest notAllowed induction =>
    exact (induction split).imp_left (List.mem_cons_of_mem _)

/-- Links lead from the tools to nothing but the tools. -/
def Closed (next : ToolId → List ToolId) (ids : List ToolId) : Prop :=
  ∀ id ∈ ids, ∀ consumer ∈ next id, consumer ∈ ids

theorem Reaches.inside (reaches : Reaches next id other) (closed : Closed next ids)
    (member : id ∈ ids) : other ∈ ids := by
  induction reaches with
  | single link => exact closed id member _ link
  | tail _ link induction => exact closed _ induction _ link

theorem mem_descendants (closed : Closed next ids) (member : id ∈ ids) :
    other ∈ descendants ids next id ↔ Reaches next id other := by
  rw [descendants, mem_walk]
  constructor
  · rintro ⟨start, follows, _, path⟩
    exact TransGen.head' follows (ReflTransGen.mono (fun _ _ step => step.1) _ _ path)
  · intro reaches
    induction reaches with
    | single link => exact ⟨_, link, closed id member _ link, .refl⟩
    | @tail middle last front link induction =>
      obtain ⟨start, follows, startAllowed, path⟩ := induction
      have middleMember := Reaches.inside front closed member
      exact ⟨start, follows, startAllowed, path.tail ⟨link, closed middle middleMember _ link⟩⟩

/-- Each of two tools can be reached from the other. -/
def Mutual (next : ToolId → List ToolId) (a b : ToolId) : Prop :=
  Reaches next a b ∧ Reaches next b a

theorem Mutual.symm (mutually : Mutual next id other) : Mutual next other id :=
  ⟨mutually.2, mutually.1⟩

theorem Mutual.trans {third : ToolId} (first : Mutual next id other)
    (second : Mutual next other third) : Mutual next id third :=
  ⟨first.1.trans second.1, second.2.trans first.2⟩

theorem Mutual.inside (mutually : Mutual next id other) (closed : Closed next ids)
    (member : id ∈ ids) : other ∈ ids :=
  Reaches.inside mutually.1 closed member

/-- The companions of a tool, in ascending order. -/
def companionsOf (ids : List ToolId) (next : ToolId → List ToolId) (id : ToolId) : List ToolId :=
  (Reach.of ids next id).companions (ids.map (Reach.of ids next))

theorem companionsOf_eq (ids : List ToolId) (next : ToolId → List ToolId) (id : ToolId) :
    companionsOf ids next id = ids.filter (fun other =>
      other ∈ descendants ids next id ∧ id ∈ descendants ids next other) := by
  rw [companionsOf, Reach.companions, List.filter_map, List.map_map]
  exact List.map_id' _

theorem mem_companionsOf (closed : Closed next ids) (member : id ∈ ids) :
    other ∈ companionsOf ids next id ↔ Mutual next id other := by
  rw [companionsOf_eq, List.mem_filter, decide_eq_true_eq]
  constructor
  · rintro ⟨otherMember, below, above⟩
    exact ⟨(mem_descendants closed member).mp below,
      (mem_descendants closed otherMember).mp above⟩
  · intro mutually
    have otherMember := mutually.inside closed member
    exact ⟨otherMember, (mem_descendants closed member).mpr mutually.1,
      (mem_descendants closed otherMember).mpr mutually.2⟩

/-- Companions have the same companions. -/
theorem companionsOf_congr (closed : Closed next ids) (member : id ∈ ids)
    (mutually : Mutual next id other) :
    companionsOf ids next other = companionsOf ids next id := by
  have otherMember := mutually.inside closed member
  have same : ∀ third, third ∈ companionsOf ids next other ↔ third ∈ companionsOf ids next id := by
    intro third
    rw [mem_companionsOf closed otherMember, mem_companionsOf closed member]
    exact ⟨mutually.trans, mutually.symm.trans⟩
  rw [companionsOf_eq ids next other, companionsOf_eq ids next id]
  refine List.filter_congr (fun third thirdMember => Bool.eq_iff_iff.mpr ?_)
  have sameThird := same third
  rw [companionsOf_eq, companionsOf_eq, List.mem_filter, List.mem_filter] at sameThird
  simpa [thirdMember] using sameThird

/-- A walk inside the companions of a tool visits all of them. -/
theorem mem_walk_companionsOf (closed : Closed next ids) (member : id ∈ ids)
    (cyclic : Reaches next id id) :
    other ∈ walk next (companionsOf ids next id) [id] ↔ Mutual next id other := by
  have isCompanion : ∀ {third}, Mutual next id third → third ∈ companionsOf ids next id :=
    (mem_companionsOf closed member).mpr
  rw [mem_walk]
  constructor
  · intro reached
    exact (mem_companionsOf closed member).mp reached.inside
  · rintro ⟨out, back⟩
    refine ⟨id, List.mem_singleton_self id, isCompanion ⟨cyclic, cyclic⟩, ?_⟩
    -- everything on the way out can go back through the end of the way
    induction out with
    | single link => exact .single ⟨link, isCompanion ⟨.single link, back⟩⟩
    | @tail middle last front link induction =>
      exact (induction (.head link back)).tail ⟨link, isCompanion ⟨.tail front link, back⟩⟩

/-- What it is for a list to be the cycle that starts with a tool. -/
structure IsCycleAt (next : ToolId → List ToolId) (id : ToolId) (cycle : List ToolId) : Prop where
  distinct : cycle.Nodup
  /-- The members are the tools on one cycle with the first. -/
  member_iff : ∀ other, other ∈ cycle ↔ Mutual next id other
  /-- The first is the least. -/
  least : ∃ rest, cycle = id :: rest ∧ ∀ other ∈ rest, id < other
  /-- Every later member follows an earlier one. -/
  follows : ∀ before other after, cycle = before ++ other :: after → before ≠ [] →
    ∃ earlier ∈ before, other ∈ next earlier

theorem isCycleAt_walk (ordered : ids.Pairwise (· < ·)) (closed : Closed next ids)
    (first : (companionsOf ids next id).head? = some id) :
    IsCycleAt next id (walk next (companionsOf ids next id) [id]) := by
  obtain ⟨companions, isCons⟩ := List.head?_eq_some_iff.mp first
  have sublist : (companionsOf ids next id).Sublist ids := by
    rw [companionsOf_eq]
    exact List.filter_sublist
  have member : id ∈ ids := sublist.subset (List.mem_of_head? first)
  have cyclic : Reaches next id id :=
    ((mem_companionsOf closed member).mp (List.mem_of_head? first)).1
  have memberIff : ∀ other, other ∈ walk next (companionsOf ids next id) [id] ↔
      Mutual next id other := fun _ => mem_walk_companionsOf closed member cyclic
  have distinct : (walk next (companionsOf ids next id) [id]).Nodup :=
    nodup_walk (nodup_of_pairwise_lt (ordered.sublist sublist))
  have starts : ∃ rest, walk next (companionsOf ids next id) [id] = id :: rest := by
    rw [walk, if_pos (List.mem_of_head? first)]
    exact ⟨_, rfl⟩
  obtain ⟨rest, isWalk⟩ := starts
  refine ⟨distinct, memberIff, ⟨rest, isWalk, ?_⟩, ?_⟩
  · intro other inRest
    have companion := (mem_companionsOf closed member).mpr
      ((memberIff other).mp (isWalk ▸ List.mem_cons_of_mem id inRest))
    rw [isCons] at companion
    have sorted := ordered.sublist sublist
    rw [isCons] at sorted
    rcases List.mem_cons.mp companion with rfl | later
    · rw [isWalk] at distinct
      exact absurd inRest (List.nodup_cons.mp distinct).1
    · exact (List.pairwise_cons.mp sorted).1 other later
  · intro before other after split nonempty
    rcases walk_follows split with onStack | follows
    · -- the stack holds nothing but the first tool, which is not visited again
      cases before with
      | nil => exact absurd rfl nonempty
      | cons head before =>
        obtain rfl := List.mem_singleton.mp onStack
        rw [split, List.cons_append] at isWalk distinct
        obtain ⟨rfl, _⟩ := List.cons.inj isWalk
        exact absurd (List.mem_append_right _ List.mem_cons_self) (List.nodup_cons.mp distinct).1
    · exact follows

theorem cycleAt?_eq_some {cycle : List ToolId} (ordered : ids.Pairwise (· < ·))
    (closed : Closed next ids)
    (found : cycleAt? next (ids.map (Reach.of ids next)) (Reach.of ids next id) = some cycle) :
    IsCycleAt next id cycle := by
  rw [cycleAt?] at found
  split at found
  · rename_i first
    cases found
    exact isCycleAt_walk ordered closed first
  · cases found

theorem mem_cycles {cycle : List ToolId} :
    cycle ∈ cycles ids next ↔
      ∃ id ∈ ids, cycleAt? next (ids.map (Reach.of ids next)) (Reach.of ids next id) =
        some cycle := by
  simp [cycles]

/-- A tool that reaches itself is on the cycle of its least companion. -/
theorem exists_cycle (ordered : ids.Pairwise (· < ·)) (closed : Closed next ids)
    (member : id ∈ ids) (cyclic : Reaches next id id) :
    ∃ cycle ∈ cycles ids next, ∀ other, other ∈ cycle ↔ Mutual next id other := by
  have self : id ∈ companionsOf ids next id := (mem_companionsOf closed member).mpr ⟨cyclic, cyclic⟩
  obtain ⟨root, isFirst⟩ : ∃ root, (companionsOf ids next id).head? = some root :=
    Option.isSome_iff_exists.mp (List.isSome_head?.mpr (List.ne_nil_of_mem self))
  have mutually : Mutual next id root :=
    (mem_companionsOf closed member).mp (List.mem_of_head? isFirst)
  have first : (companionsOf ids next root).head? = some root := by
    rw [companionsOf_congr closed member mutually]
    exact isFirst
  have isCycle := isCycleAt_walk ordered closed first
  refine ⟨walk next (companionsOf ids next root) [root],
    mem_cycles.mpr ⟨root, mutually.inside closed member, if_pos first⟩, fun other => ?_⟩
  rw [isCycle.member_iff]
  exact ⟨mutually.trans, mutually.symm.trans⟩

/-- What it is for lists to be the cycles of tools: the strongly connected components in which
something reaches itself, each listed from its least tool on. -/
structure AreCycles (ids : List ToolId) (next : ToolId → List ToolId)
    (found : List (List ToolId)) : Prop where
  inside : ∀ cycle ∈ found, cycle ⊆ ids
  distinct : ∀ cycle ∈ found, cycle.Nodup
  disjoint : found.Pairwise List.Disjoint
  covered : ∀ id ∈ ids, (∃ cycle ∈ found, id ∈ cycle) ↔ Reaches next id id
  together : ∀ a ∈ ids, ∀ b ∈ ids,
    (∃ cycle ∈ found, a ∈ cycle ∧ b ∈ cycle) ↔ Reaches next a b ∧ Reaches next b a
  least : ∀ cycle ∈ found, ∃ first rest, cycle = first :: rest ∧ ∀ id ∈ rest, first < id
  follows : ∀ cycle ∈ found, ∀ before id after, cycle = before ++ id :: after → before ≠ [] →
    ∃ earlier ∈ before, id ∈ next earlier
  ascending : found.Pairwise (List.Lex (· < ·))

/-- Of two cycles the one that starts with the lesser tool is listed first, and they have no
tool in common. -/
theorem IsCycleAt.apart {first second : List ToolId} (before : id < other)
    (isFirst : IsCycleAt next id first) (isSecond : IsCycleAt next other second) :
    List.Disjoint first second ∧ List.Lex (· < ·) first second := by
  obtain ⟨firstRest, firstCons, _⟩ := isFirst.least
  obtain ⟨secondRest, secondCons, leastSecond⟩ := isSecond.least
  constructor
  · intro shared inFirst inSecond
    have mutually := ((isSecond.member_iff shared).mp inSecond).trans
      ((isFirst.member_iff shared).mp inFirst).symm
    have listed := (isSecond.member_iff id).mpr mutually
    rw [secondCons] at listed
    rcases List.mem_cons.mp listed with rfl | later
    · exact absurd before (Fin.lt_irrefl id)
    · exact absurd (leastSecond id later) (Fin.lt_asymm before)
  · rw [firstCons, secondCons]
    exact .rel before

/-- For tools in ascending order whose links stay among them, the cycles found are the strongly
connected components with a cycle. -/
theorem areCycles_cycles (ordered : ids.Pairwise (· < ·)) (closed : Closed next ids) :
    AreCycles ids next (cycles ids next) := by
  have isCycle : ∀ cycle ∈ cycles ids next, ∃ id ∈ ids, IsCycleAt next id cycle := by
    intro cycle member
    obtain ⟨id, idMember, found⟩ := mem_cycles.mp member
    exact ⟨id, idMember, cycleAt?_eq_some ordered closed found⟩
  have apart : (cycles ids next).Pairwise (fun first second =>
      List.Disjoint first second ∧ List.Lex (· < ·) first second) := by
    rw [cycles, List.pairwise_filterMap, List.pairwise_map]
    refine ordered.imp (fun before first isFirst second isSecond => ?_)
    exact (cycleAt?_eq_some ordered closed isFirst).apart before
      (cycleAt?_eq_some ordered closed isSecond)
  have together : ∀ a ∈ ids, ∀ b ∈ ids,
      (∃ cycle ∈ cycles ids next, a ∈ cycle ∧ b ∈ cycle) ↔ Mutual next a b := by
    intro a aMember b bMember
    constructor
    · rintro ⟨cycle, member, inA, inB⟩
      obtain ⟨id, _, cycleAt⟩ := isCycle cycle member
      exact ((cycleAt.member_iff a).mp inA).symm.trans ((cycleAt.member_iff b).mp inB)
    · intro mutually
      have cyclic := (mutually.trans mutually.symm).1
      obtain ⟨cycle, member, memberIff⟩ := exists_cycle ordered closed aMember cyclic
      exact ⟨cycle, member, (memberIff a).mpr ⟨cyclic, cyclic⟩, (memberIff b).mpr mutually⟩
  constructor
  · intro cycle member other inCycle
    obtain ⟨id, idMember, cycleAt⟩ := isCycle cycle member
    exact ((cycleAt.member_iff other).mp inCycle).inside closed idMember
  · intro cycle member
    obtain ⟨id, _, cycleAt⟩ := isCycle cycle member
    exact cycleAt.distinct
  · exact apart.imp And.left
  · intro id member
    have both := together id member id member
    simpa [Mutual] using both
  · exact together
  · intro cycle member
    obtain ⟨id, _, cycleAt⟩ := isCycle cycle member
    exact ⟨id, cycleAt.least⟩
  · intro cycle member
    obtain ⟨id, _, cycleAt⟩ := isCycle cycle member
    exact cycleAt.follows
  · exact apart.imp And.right

end Flowbook
