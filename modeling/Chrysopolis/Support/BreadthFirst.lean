import Mathlib.Data.List.Basic
import Mathlib.Data.List.Nodup
import Mathlib.Data.List.Pairwise
import Mathlib.Data.List.TakeWhile

/-! Breadth-first search within a budget of visits, over items told apart by a key: an item whose
key was visited is dropped from the queue, and a visited item is expanded at its back. -/

set_option autoImplicit false

namespace Chrysopolis.Support.BreadthFirst

/-- An item, and the number of the visit it was expanded from. -/
structure Entry (Item : Type) where
  item : Item
  parent : Option Nat

variable {Item Key : Type}

/-- Roots come before whatever was expanded, and that in the order of its parents. -/
def Entry.rank (entry : Entry Item) : Nat := entry.parent.elim 0 Nat.succ

variable (key : Item → Key) (expand : Nat → Item → List Item)

/-- The keys that were visited. -/
def keys (visited : List (Entry Item)) : List Key := visited.map fun entry => key entry.item

/-- What the next visit expands to. -/
def expansion (visited : List (Entry Item)) (next : Entry Item) : List (Entry Item) :=
  (expand visited.length next.item).map fun item => { item, parent := some visited.length }

/-- The queue from its first item that was not visited on. -/
def waiting [DecidableEq Key] (visited queue : List (Entry Item)) : List (Entry Item) :=
  queue.dropWhile fun entry => key entry.item ∈ keys key visited

def search [DecidableEq Key] : Nat → List (Entry Item) → List (Entry Item) → List (Entry Item)
  | 0, visited, _ => visited
  | left + 1, visited, queue =>
      match waiting key visited queue with
      | [] => visited
      | next :: rest => search left (visited ++ [next]) (rest ++ expansion expand visited next)

/-- Where an entry may come from. -/
def Origin (roots : List Item) (visited : List (Entry Item)) (entry : Entry Item) : Prop :=
  entry.parent = none ∧ entry.item ∈ roots ∨
    ∃ number parent, entry.parent = some number ∧ visited[number]? = some parent ∧
      entry.item ∈ expand number parent.item

/-- Everything that was or will be visited is a root or was expanded from an earlier visit, no key
is visited twice, and what the visits expand to is visited or queued, in breadth-first order. -/
structure Searching (roots : List Item) (visited queue : List (Entry Item)) : Prop where
  once : (keys key visited).Nodup
  visits : ∀ number entry, visited[number]? = some entry →
    Origin expand roots (visited.take number) entry
  queued : ∀ entry ∈ queue, Origin expand roots visited entry
  sorted : (visited ++ queue).Pairwise fun first second => first.rank ≤ second.rank
  roots : ∀ root ∈ roots, key root ∈ keys key (visited ++ queue)
  expanded : ∀ number parent, visited[number]? = some parent →
    ∀ item ∈ expand number parent.item, key item ∈ keys key (visited ++ queue)

theorem searching_start (roots : List Item) :
    Searching key expand roots [] (roots.map fun item => { item, parent := none }) where
  once := List.nodup_nil
  visits := fun _ _ found => nomatch found
  queued := fun entry listed => by
    obtain ⟨item, root, rfl⟩ := List.mem_map.mp listed
    exact .inl ⟨rfl, root⟩
  sorted := by
    rw [List.nil_append, List.pairwise_map]
    exact List.pairwise_of_forall fun _ _ => Nat.le_refl _
  roots := fun root listed => List.mem_map.mpr
    ⟨_, List.mem_map_of_mem listed, rfl⟩
  expanded := fun _ _ found => nomatch found

variable {key expand} {roots : List Item} {visited queue rest : List (Entry Item)}
variable {entry next : Entry Item}

theorem Origin.rank_le (origin : Origin expand roots visited entry) :
    entry.rank ≤ visited.length := by
  rcases origin with ⟨parent, -⟩ | ⟨number, _, parent, found, -⟩
  · rw [Entry.rank, parent]
    exact Nat.zero_le _
  · rw [Entry.rank, parent]
    exact (List.getElem?_eq_some_iff.mp found).1

theorem Origin.append (origin : Origin expand roots visited entry) (more : List (Entry Item)) :
    Origin expand roots (visited ++ more) entry := by
  rcases origin with root | ⟨number, parent, parented, found, listed⟩
  · exact .inl root
  · have inside := (List.getElem?_eq_some_iff.mp found).1
    exact .inr ⟨number, parent, parented, by rwa [List.getElem?_append_left inside], listed⟩

/-- Dropping what was visited loses no key. -/
theorem mem_keys_drop [DecidableEq Key] {k : Key} (listed : k ∈ keys key (visited ++ queue)) :
    k ∈ keys key (visited ++ waiting key visited queue) := by
  simp only [waiting, keys, List.map_append, List.mem_append] at listed ⊢
  rcases listed with visited_ | queued
  · exact .inl visited_
  · rw [← List.takeWhile_append_dropWhile
      (p := fun entry => decide (key entry.item ∈ keys key visited)) (l := queue),
      List.map_append, List.mem_append] at queued
    rcases queued with dropped | queued
    · obtain ⟨entry, taken, rfl⟩ := List.mem_map.mp dropped
      have visited_ := List.mem_takeWhile_imp taken
      exact .inl (by simpa [keys] using visited_)
    · exact .inr queued

theorem Searching.drop [DecidableEq Key] (searching : Searching key expand roots visited queue) :
    Searching key expand roots visited (waiting key visited queue) where
  once := searching.once
  visits := searching.visits
  queued := fun entry listed => searching.queued entry ((List.dropWhile_sublist _).subset listed)
  sorted := searching.sorted.sublist ((List.Sublist.refl _).append (List.dropWhile_sublist _))
  roots := fun root listed => mem_keys_drop (searching.roots root listed)
  expanded := fun number parent found item listed =>
    mem_keys_drop (searching.expanded number parent found item listed)

/-- One visit. -/
theorem Searching.visit (searching : Searching key expand roots visited (next :: rest))
    (fresh : key next.item ∉ keys key visited) :
    Searching key expand roots (visited ++ [next]) (rest ++ expansion expand visited next) where
  once := by
    rw [keys, List.map_append, List.nodup_append]
    refine ⟨searching.once, List.nodup_singleton _, ?_⟩
    rintro _ listed _ single rfl
    rw [List.map_singleton, List.mem_singleton] at single
    exact fresh (single ▸ listed)
  visits := fun number entry found => by
    rcases Nat.lt_or_ge number visited.length with inside | outside
    · rw [List.getElem?_append_left inside] at found
      rw [List.take_append_of_le_length (Nat.le_of_lt inside)]
      exact searching.visits number entry found
    · rw [List.getElem?_append_right outside, List.getElem?_singleton] at found
      split at found
      · next same =>
        have here : number = visited.length := by omega
        cases found
        rw [here, List.take_left]
        exact searching.queued _ List.mem_cons_self
      · cases found
  queued := fun entry listed => by
    rcases List.mem_append.mp listed with waiting | added
    · exact (searching.queued entry (List.mem_cons_of_mem _ waiting)).append _
    · obtain ⟨item, child, rfl⟩ := List.mem_map.mp added
      exact .inr ⟨visited.length, next, rfl, by simp, child⟩
  sorted := by
    have before : ∀ entry ∈ visited ++ next :: rest, entry.rank ≤ visited.length := by
      intro entry listed
      rcases List.mem_append.mp listed with visited_ | waiting
      · obtain ⟨number, found⟩ := List.mem_iff_getElem?.mp visited_
        have inside := (List.getElem?_eq_some_iff.mp found).1
        exact Nat.le_trans (searching.visits number entry found).rank_le (List.length_take_le' ..)
      · exact (searching.queued entry waiting).rank_le
    have after : ∀ entry ∈ expansion expand visited next, entry.rank = visited.length + 1 := by
      intro entry listed
      obtain ⟨item, -, rfl⟩ := List.mem_map.mp listed
      rfl
    have split : visited ++ [next] ++ (rest ++ expansion expand visited next) =
        (visited ++ next :: rest) ++ expansion expand visited next := by simp
    rw [split, List.pairwise_append]
    refine ⟨searching.sorted, List.pairwise_of_forall_mem_list fun first one second two => ?_,
      fun first one second two => ?_⟩
    · exact Nat.le_of_eq ((after first one).trans (after second two).symm)
    · rw [after second two]
      exact Nat.le_succ_of_le (before first one)
  roots := fun root listed => by
    have kept := searching.roots root listed
    simp only [keys, List.map_append, List.map_cons, List.mem_append, List.mem_cons,
      List.map_nil, List.not_mem_nil, or_false] at kept ⊢
    tauto
  expanded := fun number parent found item listed => by
    have kept : key item ∈ keys key (visited ++ next :: rest) ∨
        key item ∈ keys key (expansion expand visited next) := by
      rcases Nat.lt_or_ge number visited.length with inside | outside
      · rw [List.getElem?_append_left inside] at found
        exact .inl (searching.expanded number parent found item listed)
      · rw [List.getElem?_append_right outside, List.getElem?_singleton] at found
        split at found
        · next same =>
          have here : number = visited.length := by omega
          cases found
          rw [here] at listed
          exact .inr (List.mem_map.mpr ⟨_, List.mem_map_of_mem listed, rfl⟩)
        · cases found
    simp only [keys, List.map_append, List.map_cons, List.mem_append, List.mem_cons,
      List.map_nil, List.not_mem_nil, or_false] at kept ⊢
    tauto

/-- What a search leaves, within a budget of visits. -/
structure Searched (key : Item → Key) (expand : Nat → Item → List Item) (roots : List Item)
    (budget : Nat) (visited : List (Entry Item)) : Prop where
  spent : visited.length ≤ budget
  once : (keys key visited).Nodup
  visits : ∀ number entry, visited[number]? = some entry →
    Origin expand roots (visited.take number) entry
  sorted : visited.Pairwise fun first second => first.rank ≤ second.rank
  /-- A search that stops early has seen everything. -/
  exhausted : visited.length < budget → (∀ root ∈ roots, key root ∈ keys key visited) ∧
    ∀ number parent, visited[number]? = some parent →
      ∀ item ∈ expand number parent.item, key item ∈ keys key visited

theorem Searching.searched [DecidableEq Key]
    (searching : Searching key expand roots visited queue) (left : Nat) :
    Searched key expand roots (visited.length + left) (search key expand left visited queue) := by
  induction left generalizing visited queue with
  | zero =>
      exact {
        spent := Nat.le_refl _
        once := searching.once
        visits := searching.visits
        sorted := searching.sorted.sublist (List.sublist_append_left ..)
        exhausted := fun early => absurd early (Nat.lt_irrefl _) }
  | succ left ih =>
      unfold search
      cases kept : waiting key visited queue with
      | nil =>
          have done := searching.drop
          rw [kept] at done
          exact {
            spent := Nat.le_add_right ..
            once := done.once
            visits := done.visits
            sorted := by simpa using done.sorted
            exhausted := fun _ => ⟨by simpa using done.roots, by simpa using done.expanded⟩ }
      | cons next rest =>
          have fresh : key next.item ∉ keys key visited := by
            have head := List.head?_dropWhile_not
              (fun entry : Entry Item => decide (key entry.item ∈ keys key visited)) queue
            rw [waiting] at kept
            simpa [kept] using head
          have later := ih ((kept ▸ searching.drop).visit fresh)
          rw [List.length_append, List.length_singleton] at later
          rwa [Nat.add_assoc, Nat.add_comm 1 left] at later

/-- The generation of a visit: how many expansions lie behind it. They come in order. -/
theorem Searched.generations {budget : Nat} (searched : Searched key expand roots budget visited)
    {generation : Nat → Nat} (counts : ∀ number entry, visited[number]? = some entry →
      generation number = entry.parent.elim 0 fun parent => generation parent + 1)
    {first second : Nat} (order : first ≤ second) (inside : second < visited.length) :
    generation first ≤ generation second := by
  induction second using Nat.strongRecOn generalizing first with
  | _ second ih =>
      rcases Nat.lt_or_eq_of_le order with earlier | rfl
      · have here := List.getElem?_eq_getElem (Nat.lt_trans earlier inside)
        have there := List.getElem?_eq_getElem inside
        have ranks := List.pairwise_iff_getElem.mp searched.sorted first second
          (Nat.lt_trans earlier inside) inside earlier
        rw [counts first _ here, counts second _ there]
        simp only [Entry.rank] at ranks
        cases left : visited[first].parent with
        | none => exact Nat.zero_le _
        | some older =>
            rw [left] at ranks
            cases right : visited[second].parent with
            | none =>
                rw [right] at ranks
                exact absurd ranks (Nat.not_succ_le_zero _)
            | some younger =>
                rw [right] at ranks
                rcases searched.visits second _ there with ⟨root, -⟩ | ⟨number, _, parent, found, -⟩
                · rw [root] at right
                  cases right
                · obtain rfl := Option.some.inj (parent.symm.trans right)
                  have before := (List.getElem?_eq_some_iff.mp found).1
                  rw [List.length_take] at before
                  have above : number < second := by omega
                  exact Nat.succ_le_succ (ih number above (Nat.le_of_succ_le_succ ranks)
                    (Nat.lt_trans above inside))
      · exact Nat.le_refl _

end Chrysopolis.Support.BreadthFirst
