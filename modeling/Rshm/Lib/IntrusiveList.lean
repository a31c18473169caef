import Mathlib.Data.List.Basic
import Mathlib.Logic.Function.Basic
import Rshm.Lib.RangeLoop

/-!
# Intrusive singly linked lists

A list whose links are stored in its nodes: `next` is the link field of every
node, a head pointer starts the list and a null link ends it.  `Chain` relates
the head and the links to the list of nodes they stand for.  A null-terminated
chain determines its nodes and never meets the same node twice.
-/

universe u

namespace IntrusiveList

variable {Node : Type u}

/-- The nodes found by following `next` from a head pointer to null. -/
inductive Chain (next : Node → Option Node) : Option Node → List Node → Prop
  | nil : Chain next none []
  | cons {node : Node} {rest : List Node} :
      Chain next (next node) rest → Chain next (some node) (node :: rest)

namespace Chain

variable {next : Node → Option Node}

theorem nodes_none {nodes : List Node} (chain : Chain next none nodes) :
    nodes = [] := by
  cases chain with
  | nil => rfl

theorem nodes_some {node : Node} {nodes : List Node}
    (chain : Chain next (some node) nodes) :
    ∃ rest, nodes = node :: rest ∧ Chain next (next node) rest := by
  cases chain with
  | cons tail => exact ⟨_, rfl, tail⟩

theorem of_cons {head : Option Node} {node : Node} {rest : List Node}
    (chain : Chain next head (node :: rest)) :
    head = some node ∧ Chain next (next node) rest := by
  cases chain with
  | cons tail => exact ⟨rfl, tail⟩

theorem unique {head : Option Node} {nodes others : List Node}
    (chain : Chain next head nodes) (other : Chain next head others) :
    nodes = others := by
  induction chain generalizing others with
  | nil => exact other.nodes_none.symm
  | cons _ induction =>
      obtain ⟨rest, rfl, tail⟩ := other.nodes_some
      rw [induction tail]

/-- Every node of a chain starts a chain no longer than the whole. -/
theorem from_member {head : Option Node} {nodes : List Node} {node : Node}
    (chain : Chain next head nodes) (member : node ∈ nodes) :
    ∃ rest, Chain next (some node) (node :: rest) ∧
      rest.length < nodes.length := by
  induction chain with
  | nil => cases member
  | cons tail induction =>
      rcases List.mem_cons.mp member with rfl | later
      · exact ⟨_, .cons tail, by simp⟩
      · obtain ⟨rest, suffix, shorter⟩ := induction later
        refine ⟨rest, suffix, ?_⟩
        simp only [List.length_cons]
        omega

theorem nodup {head : Option Node} {nodes : List Node}
    (chain : Chain next head nodes) : nodes.Nodup := by
  induction chain with
  | nil => exact List.nodup_nil
  | cons tail induction =>
      refine List.nodup_cons.mpr ⟨?_, induction⟩
      -- A second visit would start a chain that is both shorter and equal.
      intro again
      obtain ⟨rest, suffix, shorter⟩ := tail.from_member again
      have same := suffix.unique (.cons tail)
      simp only [List.cons.injEq, true_and] at same
      rw [same] at shorter
      exact Nat.lt_irrefl _ shorter

/-- A chain only depends on the links of its own nodes. -/
theorem frame {other : Node → Option Node} {head : Option Node}
    {nodes : List Node} (chain : Chain next head nodes)
    (agree : ∀ node ∈ nodes, other node = next node) :
    Chain other head nodes := by
  induction chain with
  | nil => exact .nil
  | cons tail induction =>
      apply Chain.cons
      rw [agree _ (by simp)]
      apply induction
      intro node member
      exact agree node (List.mem_cons_of_mem _ member)

variable [DecidableEq Node]

/-- `node->next = head; head = node;` -/
theorem push {head : Option Node} {nodes : List Node}
    (chain : Chain next head nodes) (node : Node) (fresh : node ∉ nodes) :
    Chain (Function.update next node head) (some node) (node :: nodes) := by
  apply Chain.cons
  rw [Function.update_self]
  apply chain.frame
  intro member membership
  apply Function.update_of_ne
  rintro rfl
  exact fresh membership

/-- Writing the link of a node outside the chain. -/
theorem update {head : Option Node} {nodes : List Node}
    (chain : Chain next head nodes) (node : Node) (link : Option Node)
    (outside : node ∉ nodes) :
    Chain (Function.update next node link) head nodes := by
  apply chain.frame
  intro member membership
  apply Function.update_of_ne
  rintro rfl
  exact outside membership

end Chain

section Cut

variable (next : Node → Option Node) (drops : Node → Bool)

/-- Walks the list and moves the head past each node that is to be dropped:
`for (node = head; node; node = node->next) if (drops(node)) head =
node->next;`.  No result when the passes do not suffice. -/
def cut : Nat → Option Node → Option Node → Option (Option Node)
  | _, none, head => some head
  | 0, some _, _ => none
  | passes + 1, some node, head =>
      cut passes (next node) (if drops node then next node else head)

variable {next drops}

/-- The head ends up behind the last node that is to be dropped: what it moved
past ends with a dropped node, and what is left has none. -/
theorem cut_stops {nodes kept : List Node} {cursor head : Option Node}
    (walked : Chain next cursor nodes) (front : List Node)
    (split : kept = front ++ nodes) (headed : Chain next head kept)
    (passed : ∀ node ∈ front, drops node = false)
    {passes : Nat} {result : Option Node}
    (finished : cut next drops passes cursor head = some result) :
    ∃ past rest, kept = past ++ rest ∧ Chain next result rest ∧
      (∀ node ∈ rest, drops node = false) ∧
      ∀ node ∈ past.getLast?, drops node = true := by
  induction walked generalizing kept front head passes with
  | nil =>
      simp only [cut, Option.some.injEq] at finished
      subst finished
      refine ⟨[], kept, rfl, headed, ?_, by simp⟩
      rw [split, List.append_nil]
      exact passed
  | @cons node rest tail induction =>
      cases passes with
      | zero => simp [cut] at finished
      | succ passes =>
          rw [cut] at finished
          cases dropped : drops node with
          | true =>
              rw [if_pos dropped] at finished
              obtain ⟨past, left, tiles, chain, clean, last⟩ :=
                induction [] rfl tail (by simp) finished
              refine ⟨front ++ node :: past, left, ?_, chain, clean, ?_⟩
              · rw [List.nil_append] at tiles
                rw [split, tiles]
                simp
              · intro other isLast
                rw [List.getLast?_append_cons] at isLast
                cases past with
                | nil =>
                    simp only [List.getLast?_singleton,
                      Option.mem_some_iff] at isLast
                    rw [← isLast]
                    exact dropped
                | cons first past =>
                    rw [List.getLast?_cons_cons] at isLast
                    exact last other isLast
          | false =>
              rw [if_neg (by simp [dropped])] at finished
              apply induction (front ++ [node]) (by simp [split]) headed _
                finished
              intro earlier member
              rcases List.mem_append.mp member with old | new
              · exact passed earlier old
              · rw [List.mem_singleton.mp new]
                exact dropped

/-- The head ends up at a suffix of the list in which nothing is left to
drop. -/
theorem cut_spec {nodes : List Node} {head : Option Node}
    (chain : Chain next head nodes) {passes : Nat} {result : Option Node}
    (finished : cut next drops passes head head = some result) :
    ∃ rest, Chain next result rest ∧ rest <:+ nodes ∧
      ∀ node ∈ rest, drops node = false := by
  obtain ⟨past, rest, tiles, chain, clean, -⟩ :=
    cut_stops chain [] rfl chain (by simp) finished
  exact ⟨rest, chain, ⟨past, tiles.symm⟩, clean⟩

/-- No node that is to stay stands in front of one that is to go. -/
def DropsFirst (drops : Node → Bool) (nodes : List Node) : Prop :=
  nodes.Pairwise fun earlier later =>
    drops later = true → drops earlier = true

theorem dropsFirst_iff {past rest : List Node}
    (clean : ∀ node ∈ rest, drops node = false)
    (last : ∀ node ∈ past.getLast?, drops node = true) :
    DropsFirst drops (past ++ rest) ↔ ∀ node ∈ past, drops node = true := by
  constructor
  · intro ordered node member
    rcases List.eq_nil_or_concat past with rfl | ⟨front, final, rfl⟩
    · cases member
    · rw [List.concat_eq_append] at member last ordered
      have goes : drops final = true := last final (by simp)
      have before := (List.pairwise_append.mp
        (List.pairwise_append.mp ordered).1).2.2
      rcases List.mem_append.mp member with early | here
      · exact before node early final (by simp) goes
      · rw [List.mem_singleton.mp here]
        exact goes
  · intro goes
    apply List.pairwise_append.mpr
    refine ⟨List.pairwise_of_forall_mem_list ?_,
      List.pairwise_of_forall_mem_list ?_, ?_⟩
    · intro earlier member later _ _
      exact goes earlier member
    · intro earlier _ later member drop
      rw [clean later member] at drop
      cases drop
    · intro earlier member later _ _
      exact goes earlier member

/-- Moving only the head filters the list exactly if what is to go stands in
front. -/
theorem cut_filters_iff {nodes : List Node} {head : Option Node}
    (chain : Chain next head nodes) {passes : Nat} {result : Option Node}
    (finished : cut next drops passes head head = some result) :
    Chain next result (nodes.filter fun node => !drops node) ↔
      DropsFirst drops nodes := by
  obtain ⟨past, rest, rfl, left, clean, last⟩ :=
    cut_stops chain [] rfl chain (by simp) finished
  have restStays : (rest.filter fun node => !drops node) = rest := by
    apply List.filter_eq_self.mpr
    intro node member
    simp [clean node member]
  rw [dropsFirst_iff clean last, List.filter_append, restStays]
  constructor
  · intro filtered
    have same := filtered.unique left
    simpa using same
  · intro goes
    have none_ : (past.filter fun node => !drops node) = [] := by
      simpa using goes
    rw [none_, List.nil_append]
    exact left

/-- No node that is to stay is lost exactly if what is to go stands in
front. -/
theorem cut_keeps_iff {nodes rest : List Node} {head : Option Node}
    (chain : Chain next head nodes) {passes : Nat} {result : Option Node}
    (finished : cut next drops passes head head = some result)
    (left : Chain next result rest) :
    (∀ node ∈ nodes, drops node = false → node ∈ rest) ↔
      DropsFirst drops nodes := by
  obtain ⟨past, others, rfl, again, clean, last⟩ :=
    cut_stops chain [] rfl chain (by simp) finished
  cases left.unique again
  rw [dropsFirst_iff clean last]
  have apart := (List.nodup_append.mp chain.nodup).2.2
  constructor
  · intro kept node member
    cases stays : drops node with
    | true => rfl
    | false =>
        have again := kept node (List.mem_append_left _ member) stays
        exact absurd rfl (apart node member node again)
  · intro goes node member stays
    rcases List.mem_append.mp member with passed | here
    · rw [goes node passed] at stays
      cases stays
    · exact here

/-- Enough passes always finish the walk. -/
theorem cut_finishes {nodes : List Node} {cursor : Option Node}
    (walked : Chain next cursor nodes) (head : Option Node) {passes : Nat}
    (enough : nodes.length ≤ passes) :
    ∃ result, cut next drops passes cursor head = some result := by
  induction walked generalizing head passes with
  | nil => exact ⟨head, by rw [cut]⟩
  | cons tail induction =>
      cases passes with
      | zero => simp at enough
      | succ passes =>
          rw [cut]
          exact induction _ (by simpa using enough)

end Cut

section PushAll

open RangeLoop

/-- The loop that pushes the nodes `node first`, `node (first + 1)`, ... -/
def pushAll [DecidableEq Node] (node : Nat → Node) (count first : Nat)
    (state : (Node → Option Node) × Option Node) :
    (Node → Option Node) × Option Node :=
  forEach
    (fun index state =>
      (Function.update state.1 (node index) state.2, some (node index)))
    count first state

/-- The pushed nodes, last pushed first. -/
def pushed (node : Nat → Node) (first : Nat) : Nat → List Node
  | 0 => []
  | count + 1 => node (first + count) :: pushed node first count

@[simp] theorem length_pushed (node : Nat → Node) (first count : Nat) :
    (pushed node first count).length = count := by
  induction count with
  | zero => rfl
  | succ count induction => simp [pushed, induction]

theorem mem_pushed {node : Nat → Node} {first count : Nat} {member : Node} :
    member ∈ pushed node first count ↔
      ∃ index, first ≤ index ∧ index < first + count ∧
        node index = member := by
  induction count with
  | zero =>
      simp only [pushed, List.not_mem_nil, false_iff, not_exists, not_and]
      omega
  | succ count induction =>
      simp only [pushed, List.mem_cons, induction]
      constructor
      · rintro (rfl | ⟨index, lower, upper, here⟩)
        · exact ⟨first + count, by omega, by omega, rfl⟩
        · exact ⟨index, lower, by omega, here⟩
      · rintro ⟨index, lower, upper, here⟩
        by_cases last : index = first + count
        · exact .inl (last ▸ here.symm)
        · exact .inr ⟨index, lower, by omega, here⟩

/-- Pushing distinct nodes that are not on the list puts them all in front,
and writes no other link. -/
theorem pushAll_spec [DecidableEq Node] {node : Nat → Node}
    {next : Node → Option Node} {head : Option Node} {nodes : List Node} {count first : Nat}
    (chain : Chain next head nodes)
    (fresh : ∀ index, first ≤ index → index < first + count →
      node index ∉ nodes)
    (distinct : ∀ i j, node i = node j → i = j) :
    let after := pushAll node count first (next, head)
    Chain after.1 after.2 (pushed node first count ++ nodes) ∧
      ∀ other, other ∉ pushed node first count →
        after.1 other = next other := by
  intro after
  let holds : Nat → (Node → Option Node) × Option Node → Prop :=
    fun index state =>
      Chain state.1 state.2 (pushed node first (index - first) ++ nodes) ∧
        ∀ other, other ∉ pushed node first (index - first) →
          state.1 other = next other
  have done : holds (first + count) after := by
    apply forEach_induction holds
    · simpa [holds, pushed] using chain
    · intro index state lower upper held
      have step : index + 1 - first = index - first + 1 := by omega
      have here : first + (index - first) = index := by omega
      simp only [holds, step, pushed, here, List.cons_append]
      refine ⟨held.1.push (node index) ?_, ?_⟩
      · intro member
        rcases List.mem_append.mp member with earlier | old
        · obtain ⟨before, -, bound, same⟩ := mem_pushed.mp earlier
          have equal := distinct _ _ same
          omega
        · exact fresh index lower upper old
      · intro other outside
        simp only [List.mem_cons, not_or] at outside
        rw [Function.update_of_ne outside.1]
        exact held.2 other outside.2
  simpa [holds] using done

end PushAll

end IntrusiveList
