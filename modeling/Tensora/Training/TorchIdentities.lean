import Mathlib
import Tensora.Core.Status
import Tensora.Lib.OrderedMap

/-! The identities of LibTorch tensors: a cache keyed by address, pruned lazily, under a mutex,
while tensors of other threads come and go. -/
namespace Tensora.TorchIdentities

abbrev Address := UInt64

/-- The weak reference names the `TensorImpl` by the number of its creation. -/
structure TorchIdentityEntry where
  identity : UInt64
  tensorImpl : Nat
  deriving DecidableEq, Repr

/-- What the mutex guards: `TorchIdentityMap` and `NextTorchIdentity`. -/
structure IdentityCache where
  identities : OrderedMap Address TorchIdentityEntry
  next : UInt64

def IdentityCache.initial : IdentityCache := ⟨.empty, (1 : UInt64) <<< 63⟩

def IdentityCache.pruneAt (expired : Nat → Bool) (key : Address) (cache : IdentityCache) :
    IdentityCache :=
  match cache.identities.get? key with
  | none => cache
  | some entry =>
      if expired entry.tensorImpl then { cache with identities := cache.identities.erase key }
      else cache

/-- `TorchIdentity` once the cache is pruned. `thrown` is what the insertion throws. -/
def torchIdentity (tensorImpl : Nat) (key : Address) (thrown : Option Exception) :
    EStateM Failure IdentityCache UInt64 := do
  match (← get).identities.get? key with
  | some existing => return existing.identity
  | none =>
      let assigned := (← get).next
      failIf (assigned = 0) (internalError "tensor_identity: opaque identity space exhausted")
      modify fun cache => { cache with next := cache.next + 1 }
      allocationGuard "tensor_identity" (match thrown with
        | some exception => throw exception.failure
        | none => modify fun cache =>
            { cache with identities := cache.identities.set key ⟨assigned, tensorImpl⟩ })
      return assigned

/-- What a thread takes the mutex for: the identity of an object it holds a reference to, with the
address read before, or `TorchIdentityCacheSizeForTesting`. -/
inductive Task where
  | identity (object : Nat) (key : Address)
  | cacheSize
  deriving DecidableEq, Repr

inductive Phase where
  | idle
  | waiting (task : Task)
  | pruning (task : Task) (remaining : List Address)
  deriving DecidableEq, Repr

def Task.holds (object : Nat) : Task → Bool
  | .identity held _ => held == object
  | .cacheSize => false

def Phase.task : Phase → Option Task
  | .idle => none
  | .waiting task | .pruning task _ => some task

def Phase.holds (object : Nat) (phase : Phase) : Bool := phase.task.any (·.holds object)

structure Answer where
  object : Nat
  identity : UInt64
  deriving DecidableEq, Repr

/-- The `TensorImpl`s are numbered in the order of their creation; `handles` counts the references
the rest of the program has to each. -/
structure IdentityState where
  addressOf : Nat → Address
  handles : Nat → Nat
  created : Nat
  cache : IdentityCache
  owner : Option Nat
  threads : List Phase
  answers : List Answer

namespace IdentityState

def initial (threads : Nat) : IdentityState where
  addressOf := fun _ => 0
  handles := fun _ => 0
  created := 0
  cache := .initial
  owner := none
  threads := List.replicate threads .idle
  answers := []

def alive (s : IdentityState) (object : Nat) : Bool :=
  decide (0 < s.handles object) || s.threads.any (·.holds object)

def expired (s : IdentityState) (object : Nat) : Bool := !s.alive object

def createAt (s : IdentityState) (address : Address) : IdentityState :=
  { s with
    addressOf := Function.update s.addressOf s.created address
    handles := Function.update s.handles s.created 1
    created := s.created + 1 }

def setHandles (s : IdentityState) (object count : Nat) : IdentityState :=
  { s with handles := Function.update s.handles object count }

def setPhase (s : IdentityState) (thread : Nat) (phase : Phase) : IdentityState :=
  { s with threads := s.threads.set thread phase }

def conclude (s : IdentityState) (thread : Nat) (task : Task) (thrown : Option Exception) :
    IdentityState :=
  match task with
  | .cacheSize => { s.setPhase thread .idle with owner := none }
  | .identity object key =>
      match torchIdentity object key thrown s.cache with
      | .ok identity cache =>
          { s.setPhase thread .idle with
            owner := none, cache := cache, answers := ⟨object, identity⟩ :: s.answers }
      | .error _ cache => { s.setPhase thread .idle with owner := none, cache := cache }

end IdentityState

inductive Event where
  | create (address : Address)
  | share (object : Nat)
  | drop (object : Nat)
  | query (thread object : Nat)
  | countEntries (thread : Nat)
  | lock (thread : Nat) (order : List Address)
  | visit (thread : Nat)
  | finish (thread : Nat) (thrown : Option Exception)
  deriving DecidableEq

/-- An address is free once no object lives there. The map is walked in any order. -/
def step (s : IdentityState) : Event → Option IdentityState
  | .create address =>
      if ∀ object < s.created, s.alive object → s.addressOf object ≠ address then
        some (s.createAt address)
      else none
  | .share object =>
      if s.alive object then some (s.setHandles object (s.handles object + 1)) else none
  | .drop object =>
      if 0 < s.handles object then some (s.setHandles object (s.handles object - 1)) else none
  | .query thread object =>
      if s.threads[thread]? = some .idle ∧ s.alive object then
        some (s.setPhase thread (.waiting (.identity object (s.addressOf object))))
      else none
  | .countEntries thread =>
      if s.threads[thread]? = some .idle then some (s.setPhase thread (.waiting .cacheSize))
      else none
  | .lock thread order =>
      match s.threads[thread]? with
      | some (.waiting task) =>
          if s.owner = none ∧ order.Perm s.cache.identities.keys then
            some { s.setPhase thread (.pruning task order) with owner := some thread }
          else none
      | _ => none
  | .visit thread =>
      match s.threads[thread]? with
      | some (.pruning task (key :: rest)) =>
          some { s.setPhase thread (.pruning task rest) with
            cache := s.cache.pruneAt s.expired key }
      | _ => none
  | .finish thread thrown =>
      match s.threads[thread]? with
      | some (.pruning task []) => some (s.conclude thread task thrown)
      | _ => none

def run (s : IdentityState) : List Event → Option IdentityState
  | [] => some s
  | event :: rest => (step s event).bind (run · rest)

namespace IdentityState
variable {s : IdentityState}

theorem alive_iff {object : Nat} :
    s.alive object = true ↔
      0 < s.handles object ∨ ∃ phase ∈ s.threads, phase.holds object = true := by
  simp [alive]

theorem alive_of_holds {thread object : Nat} {phase : Phase} (h : s.threads[thread]? = some phase)
    (holds : phase.holds object = true) : s.alive object = true :=
  alive_iff.mpr (Or.inr ⟨phase, List.mem_of_getElem? h, holds⟩)

theorem alive_of_setPhase {thread object : Nat} {phase : Phase}
    (held : phase.holds object = true → s.alive object = true)
    (h : (s.setPhase thread phase).alive object = true) : s.alive object = true := by
  rcases alive_iff.mp h with handles | ⟨other, member, holds⟩
  · exact alive_iff.mpr (Or.inl handles)
  · rcases List.mem_or_eq_of_mem_set member with old | rfl
    · exact alive_iff.mpr (Or.inr ⟨other, old, holds⟩)
    · exact held holds

structure Objects (s : IdentityState) : Prop where
  born : ∀ object, s.alive object = true → object < s.created
  apart : ∀ object other, s.alive object = true → s.alive other = true →
    s.addressOf object = s.addressOf other → object = other
  keyed : ∀ phase ∈ s.threads, ∀ object key, phase.task = some (.identity object key) →
    s.addressOf object = key

/-- The cache knows every living object that has been answered for, and only entries for which
answers were given. -/
structure Remembers (s : IdentityState) : Prop where
  located : ∀ key entry, s.cache.identities.get? key = some entry →
    s.addressOf entry.tensorImpl = key ∧ ⟨entry.tensorImpl, entry.identity⟩ ∈ s.answers
  kept : ∀ answer ∈ s.answers, s.alive answer.object = true →
    s.cache.identities.get? (s.addressOf answer.object) = some ⟨answer.identity, answer.object⟩
  old : ∀ answer ∈ s.answers, answer.object < s.created
  below : ∀ answer ∈ s.answers, s.cache.next = 0 ∨ answer.identity < s.cache.next
  injective : ∀ a ∈ s.answers, ∀ b ∈ s.answers, a.identity = b.identity ↔ a.object = b.object

/-- Only the owner of the mutex prunes. An entry it has passed at the address of the object it
holds is that object's. -/
structure Scans (s : IdentityState) : Prop where
  owned : ∀ (thread : Nat) task remaining, s.threads[thread]? = some (.pruning task remaining) →
    s.owner = some thread
  scanned : ∀ (thread : Nat) object key remaining,
    s.threads[thread]? = some (.pruning (.identity object key) remaining) →
    ∀ entry, s.cache.identities.get? key = some entry → key ∈ remaining ∨ entry.tensorImpl = object

structure Inv (s : IdentityState) : Prop where
  objects : s.Objects
  remembers : s.Remembers
  scans : s.Scans

theorem inv_initial (threads : Nat) : (initial threads).Inv := by
  have idle : ∀ phase ∈ (initial threads).threads, phase = .idle :=
    fun phase member => (List.mem_replicate.mp member).2
  have dead : ∀ object, (initial threads).alive object ≠ true := by
    intro object h
    rcases alive_iff.mp h with handles | ⟨phase, member, holds⟩
    · exact absurd handles (Nat.lt_irrefl 0)
    · rw [idle phase member] at holds
      cases holds
  refine ⟨⟨?_, ?_, ?_⟩, ⟨?_, ?_, ?_, ?_, ?_⟩, ⟨?_, ?_⟩⟩
  · exact fun object h => absurd h (dead object)
  · exact fun object other h => absurd h (dead object)
  · intro phase member object key task
    rw [idle phase member] at task
    cases task
  · intro key entry found
    cases found
  · intro answer member
    cases member
  · intro answer member
    cases member
  · intro answer member
    cases member
  · intro a member
    cases member
  · intro thread task remaining h
    cases idle _ (List.mem_of_getElem? h)
  · intro thread object key remaining h
    cases idle _ (List.mem_of_getElem? h)

/-- Steps that create no object only lose living ones. -/
theorem Objects.setPhase (h : s.Objects) {thread : Nat} {phase : Phase}
    (held : ∀ object, phase.holds object = true → s.alive object = true)
    (keyed : ∀ object key, phase.task = some (.identity object key) → s.addressOf object = key) :
    (s.setPhase thread phase).Objects where
  born := fun object living => h.born object (alive_of_setPhase (held object) living)
  apart := fun object other living living' =>
    h.apart object other (alive_of_setPhase (held object) living)
      (alive_of_setPhase (held other) living')
  keyed := by
    intro other member object key task
    rcases List.mem_or_eq_of_mem_set member with old | rfl
    · exact h.keyed other old object key task
    · exact keyed object key task

theorem Remembers.setPhase (h : s.Remembers) {thread : Nat} {phase : Phase}
    (held : ∀ object, phase.holds object = true → s.alive object = true) :
    (s.setPhase thread phase).Remembers where
  located := h.located
  kept := fun answer member living =>
    h.kept answer member (alive_of_setPhase (held answer.object) living)
  old := h.old
  below := h.below
  injective := h.injective

theorem Objects.proceed (h : s.Objects) {thread : Nat} {phase next : Phase}
    (current : s.threads[thread]? = some phase) (task : next.task = phase.task) :
    (s.setPhase thread next).Objects ∧
      ∀ object, next.holds object = true → s.alive object = true := by
  have held : ∀ object, next.holds object = true → s.alive object = true := by
    intro object holds
    rw [Phase.holds, task] at holds
    exact alive_of_holds current holds
  refine ⟨h.setPhase held ?_, held⟩
  intro object key same
  exact h.keyed phase (List.mem_of_getElem? current) object key (task.symm.trans same)

theorem getElem?_setPhase {thread other : Nat} {phase found : Phase}
    (h : (s.setPhase thread phase).threads[other]? = some found) :
    other = thread ∧ found = phase ∨ other ≠ thread ∧ s.threads[other]? = some found := by
  rw [setPhase, List.getElem?_set] at h
  split at h
  · rename_i same
    split at h
    · exact Or.inl ⟨same.symm, (Option.some.inj h).symm⟩
    · cases h
  · rename_i different
    exact Or.inr ⟨Ne.symm different, h⟩

theorem Scans.setPhase (h : s.Scans) {thread : Nat} {phase : Phase}
    (quiet : ∀ task remaining, phase ≠ .pruning task remaining) :
    (s.setPhase thread phase).Scans where
  owned := by
    intro other task remaining found
    rcases getElem?_setPhase found with ⟨-, rfl⟩ | ⟨-, old⟩
    · exact absurd rfl (quiet task remaining)
    · exact h.owned other task remaining old
  scanned := by
    intro other object key remaining found
    rcases getElem?_setPhase found with ⟨-, rfl⟩ | ⟨-, old⟩
    · exact absurd rfl (quiet _ remaining)
    · exact h.scanned other object key remaining old

theorem alive_of_createAt {address : Address} {object : Nat}
    (h : (s.createAt address).alive object = true) :
    object = s.created ∨ s.alive object = true := by
  by_cases new : object = s.created
  · exact Or.inl new
  · right
    rcases alive_iff.mp h with handles | held
    · have old : (s.createAt address).handles object = s.handles object :=
        Function.update_of_ne new _ _
      rw [old] at handles
      exact alive_iff.mpr (Or.inl handles)
    · exact alive_iff.mpr (Or.inr held)

theorem addressOf_createAt {address : Address} {object : Nat} (h : object < s.created) :
    (s.createAt address).addressOf object = s.addressOf object :=
  Function.update_of_ne (Nat.ne_of_lt h) _ _

theorem addressOf_created {address : Address} :
    (s.createAt address).addressOf s.created = address := Function.update_self _ _ _

theorem Objects.createAt (h : s.Objects) {address : Address}
    (free : ∀ object < s.created, s.alive object = true → s.addressOf object ≠ address) :
    (s.createAt address).Objects := by
  refine ⟨?_, ?_, ?_⟩
  · intro object here
    rcases alive_of_createAt here with rfl | before
    · exact Nat.lt_succ_self _
    · exact Nat.lt_succ_of_lt (h.born object before)
  · intro object other here there same
    rcases alive_of_createAt here with rfl | before <;>
      rcases alive_of_createAt there with rfl | before'
    · rfl
    · have below := h.born other before'
      rw [addressOf_created, addressOf_createAt below] at same
      exact absurd same.symm (free other below before')
    · have below := h.born object before
      rw [addressOf_created, addressOf_createAt below] at same
      exact absurd same (free object below before)
    · rw [addressOf_createAt (h.born object before),
        addressOf_createAt (h.born other before')] at same
      exact h.apart object other before before' same
  · intro phase member object key task
    have holds : phase.holds object = true := by simp [Phase.holds, task, Task.holds]
    have before : s.alive object = true := alive_iff.mpr (Or.inr ⟨phase, member, holds⟩)
    rw [addressOf_createAt (h.born object before)]
    exact h.keyed phase member object key task

theorem inv_create (h : s.Inv) {address : Address}
    (free : ∀ object < s.created, s.alive object = true → s.addressOf object ≠ address) :
    (s.createAt address).Inv := by
  refine ⟨h.objects.createAt free,
    ⟨?_, ?_, ?_, h.remembers.below, h.remembers.injective⟩, ⟨h.scans.owned, h.scans.scanned⟩⟩
  · intro key entry found
    obtain ⟨place, answered⟩ := h.remembers.located key entry found
    exact ⟨(addressOf_createAt (h.remembers.old _ answered)).trans place, answered⟩
  · intro answer member here
    have below := h.remembers.old answer member
    rw [addressOf_createAt below]
    rcases alive_of_createAt here with new | before
    · exact absurd new (Nat.ne_of_lt below)
    · exact h.remembers.kept answer member before
  · exact fun answer member => Nat.lt_succ_of_lt (h.remembers.old answer member)

theorem alive_of_setHandles {object count other : Nat}
    (held : 0 < count → s.alive object = true)
    (h : (s.setHandles object count).alive other = true) : s.alive other = true := by
  rcases alive_iff.mp h with handles | holding
  · by_cases same : other = object
    · subst same
      have now : (s.setHandles other count).handles other = count := Function.update_self _ _ _
      exact held (now ▸ handles)
    · have old : (s.setHandles object count).handles other = s.handles other :=
        Function.update_of_ne same _ _
      exact alive_iff.mpr (Or.inl (old ▸ handles))
  · exact alive_iff.mpr (Or.inr holding)

theorem inv_setHandles (h : s.Inv) {object count : Nat} (held : 0 < count → s.alive object = true) :
    (s.setHandles object count).Inv where
  objects := ⟨fun other here => h.objects.born other (alive_of_setHandles held here),
    fun other another here there => h.objects.apart other another (alive_of_setHandles held here)
      (alive_of_setHandles held there), h.objects.keyed⟩
  remembers := ⟨h.remembers.located,
    fun answer member here => h.remembers.kept answer member (alive_of_setHandles held here),
    h.remembers.old, h.remembers.below, h.remembers.injective⟩
  scans := ⟨h.scans.owned, h.scans.scanned⟩

theorem inv_query (h : s.Inv) {thread object : Nat} (here : s.alive object = true) :
    (s.setPhase thread (.waiting (.identity object (s.addressOf object)))).Inv := by
  have held : ∀ other, Phase.holds other (.waiting (.identity object (s.addressOf object))) = true →
      s.alive other = true := by
    intro other holds
    have same : object = other := by simpa [Phase.holds, Phase.task, Task.holds] using holds
    exact same ▸ here
  refine ⟨h.objects.setPhase held ?_, h.remembers.setPhase held, h.scans.setPhase ?_⟩
  · intro other key task
    cases task
    rfl
  · exact fun _ _ => Phase.noConfusion

theorem inv_countEntries (h : s.Inv) (thread : Nat) :
    (s.setPhase thread (.waiting .cacheSize)).Inv := by
  have held : ∀ other, Phase.holds other (.waiting .cacheSize) = true → s.alive other = true := by
    intro other holds
    cases holds
  refine ⟨h.objects.setPhase held ?_, h.remembers.setPhase held, h.scans.setPhase ?_⟩
  · intro other key task
    cases task
  · exact fun _ _ => Phase.noConfusion

theorem inv_lock (h : s.Inv) {thread : Nat} {task : Task} {order : List Address}
    (current : s.threads[thread]? = some (.waiting task)) (unlocked : s.owner = none)
    (whole : order.Perm s.cache.identities.keys) :
    Inv { s.setPhase thread (.pruning task order) with owner := some thread } := by
  obtain ⟨objects, held⟩ :=
    h.objects.proceed current (rfl : (Phase.pruning task order).task = _)
  have remembers : (s.setPhase thread (.pruning task order)).Remembers := h.remembers.setPhase held
  refine ⟨⟨objects.born, objects.apart, objects.keyed⟩,
    ⟨remembers.located, remembers.kept, remembers.old, remembers.below, remembers.injective⟩,
    ?_, ?_⟩
  · intro other pruned remaining found
    rcases getElem?_setPhase found with ⟨rfl, -⟩ | ⟨-, old⟩
    · rfl
    · have owner := h.scans.owned other pruned remaining old
      rw [unlocked] at owner
      cases owner
  · intro other object key remaining found entry present
    rcases getElem?_setPhase found with ⟨rfl, same⟩ | ⟨-, old⟩
    · cases same
      exact Or.inl (whole.mem_iff.mpr (OrderedMap.mem_keys_of_get? present))
    · have owner := h.scans.owned other _ remaining old
      rw [unlocked] at owner
      cases owner

theorem get?_pruneAt_iff {expired : Nat → Bool} {visited key : Address} {cache : IdentityCache}
    {entry : TorchIdentityEntry} :
    (cache.pruneAt expired visited).identities.get? key = some entry ↔
      cache.identities.get? key = some entry ∧
        ¬(key = visited ∧ expired entry.tensorImpl = true) := by
  unfold IdentityCache.pruneAt
  cases present : cache.identities.get? visited with
  | none =>
      refine ⟨fun found => ⟨found, ?_⟩, And.left⟩
      rintro ⟨rfl, -⟩
      rw [present] at found
      cases found
  | some old =>
      dsimp only
      split
      · rename_i dead
        rw [OrderedMap.get?_erase_iff, and_comm]
        refine and_congr_right fun found => not_congr ⟨fun same => ⟨same, ?_⟩, And.left⟩
        rw [same, present] at found
        exact Option.some.inj found ▸ dead
      · rename_i living
        refine ⟨fun found => ⟨found, ?_⟩, And.left⟩
        rintro ⟨rfl, dead⟩
        rw [present] at found
        exact living (Option.some.inj found ▸ dead)

@[simp] theorem next_pruneAt {expired : Nat → Bool} {visited : Address} {cache : IdentityCache} :
    (cache.pruneAt expired visited).next = cache.next := by
  unfold IdentityCache.pruneAt
  repeat' split
  all_goals rfl

theorem inv_visit (h : s.Inv) {thread : Nat} {task : Task} {key : Address} {rest : List Address}
    (current : s.threads[thread]? = some (.pruning task (key :: rest))) :
    Inv { s.setPhase thread (.pruning task rest) with cache := s.cache.pruneAt s.expired key } := by
  obtain ⟨objects, held⟩ :=
    h.objects.proceed current (rfl : (Phase.pruning task rest).task = _)
  have remembers : (s.setPhase thread (.pruning task rest)).Remembers := h.remembers.setPhase held
  refine ⟨⟨objects.born, objects.apart, objects.keyed⟩, ⟨?_, ?_, h.remembers.old, ?_,
    h.remembers.injective⟩, ?_, ?_⟩
  · exact fun other entry found => h.remembers.located other entry (get?_pruneAt_iff.mp found).1
  · intro answer member here
    have living := alive_of_setPhase (held answer.object) here
    refine get?_pruneAt_iff.mpr ⟨h.remembers.kept answer member living, ?_⟩
    rintro ⟨-, dead⟩
    simp [expired, living] at dead
  · intro answer member
    dsimp only
    rw [next_pruneAt]
    exact h.remembers.below answer member
  · intro other pruned remaining found
    rcases getElem?_setPhase found with ⟨rfl, -⟩ | ⟨-, old⟩
    · exact h.scans.owned other task (key :: rest) current
    · exact h.scans.owned other pruned remaining old
  · intro other object address remaining found entry present
    obtain ⟨before, spared⟩ := get?_pruneAt_iff.mp present
    rcases getElem?_setPhase found with ⟨rfl, same⟩ | ⟨-, old⟩
    · cases same
      rcases h.scans.scanned other object address (key :: rest) current entry before with
        ahead | passed
      · rcases List.mem_cons.mp ahead with rfl | later
        · -- an entry that is spared is of a living object, and no other lives at this address
          right
          have alive : s.alive entry.tensorImpl = true := by
            by_contra dead
            exact spared ⟨rfl, by simpa [expired] using dead⟩
          have here : s.alive object = true := alive_of_holds current (by
            simp [Phase.holds, Phase.task, Task.holds])
          have place : s.addressOf object = address :=
            h.objects.keyed _ (List.mem_of_getElem? current) object address rfl
          exact h.objects.apart _ _ alive here
            ((h.remembers.located address entry before).1.trans place.symm)
        · exact Or.inl later
      · exact Or.inr passed
    · exact h.scans.scanned other object address remaining old entry before

open ProgramLogic

/-- A query answers with the entry that is there or with a new one. A failure adds no entry, but it
may cost an identity. -/
theorem spec_torchIdentity (object : Nat) (key : Address) (thrown : Option Exception)
    (cache : IdentityCache) :
    wp (torchIdentity object key thrown)
      (fun identity after =>
        (∃ entry, cache.identities.get? key = some entry ∧ entry.identity = identity ∧
          after = cache) ∨
        (cache.identities.get? key = none ∧ cache.next ≠ 0 ∧ identity = cache.next ∧
          after = ⟨cache.identities.set key ⟨cache.next, object⟩, cache.next + 1⟩))
      (fun _ after => after.identities = cache.identities ∧
        (after.next = cache.next ∨ cache.next ≠ 0 ∧ after.next = cache.next + 1))
      cache := by
  unfold torchIdentity
  rw [wp_bind, wp_get]
  cases found : cache.identities.get? key with
  | some entry => exact Or.inl ⟨entry, rfl, rfl, rfl⟩
  | none =>
      simp only [wp_bind, wp_get, wp_failIf, wp_modify]
      refine ⟨fun _ => ⟨trivial, Or.inl trivial⟩, fun available => ?_⟩
      cases thrown with
      | none => exact Or.inr ⟨trivial, available, rfl, rfl⟩
      | some exception =>
          cases exception <;> exact ⟨rfl, Or.inr ⟨available, rfl⟩⟩

theorem below_succ {identity next : UInt64} (h : identity ≤ next) :
    next + 1 = 0 ∨ identity < next + 1 := by
  rw [← UInt64.toNat_inj, UInt64.lt_iff_toNat_lt, UInt64.toNat_add]
  have := UInt64.le_iff_toNat_le.mp h
  have := UInt64.toNat_lt next
  simp
  omega

theorem ne_of_below {answer : Answer} {next : UInt64} (available : next ≠ 0)
    (h : next = 0 ∨ answer.identity < next) : answer.identity ≠ next := by
  intro same
  rcases h with exhausted | below
  · exact available exhausted
  · exact UInt64.lt_irrefl next (same ▸ below)

section
variable {owner : Option Nat}

theorem Remembers.failed (h : s.Remembers) {cache : IdentityCache}
    (same : cache.identities = s.cache.identities)
    (spent : cache.next = s.cache.next ∨ s.cache.next ≠ 0 ∧ cache.next = s.cache.next + 1) :
    Remembers { s with owner := owner, cache := cache } where
  located := by
    rw [same]
    exact h.located
  kept := by
    rw [same]
    exact h.kept
  old := h.old
  below := by
    intro answer member
    dsimp only
    rcases spent with unspent | ⟨available, one⟩
    · rw [unspent]
      exact h.below answer member
    · rw [one]
      have before := (h.below answer member).resolve_left available
      exact below_succ (UInt64.le_of_lt before)
  injective := h.injective

theorem Remembers.answered (h : s.Remembers) {key : Address} {entry : TorchIdentityEntry}
    (found : s.cache.identities.get? key = some entry) :
    Remembers { s with
      owner := owner, answers := ⟨entry.tensorImpl, entry.identity⟩ :: s.answers } := by
  obtain ⟨place, answered⟩ := h.located key entry found
  have member : ∀ answer : Answer, answer ∈ (⟨entry.tensorImpl, entry.identity⟩ :: s.answers) →
      answer ∈ s.answers := by
    intro answer member
    rcases List.mem_cons.mp member with rfl | old
    · exact answered
    · exact old
  refine ⟨?_, fun answer new => h.kept answer (member answer new),
    fun answer new => h.old answer (member answer new),
    fun answer new => h.below answer (member answer new),
    fun a new b new' => h.injective a (member a new) b (member b new')⟩
  intro other entry' found'
  obtain ⟨place', answered'⟩ := h.located other entry' found'
  exact ⟨place', List.mem_cons_of_mem _ answered'⟩

theorem Remembers.assigned (h : s.Remembers) (objects : s.Objects) {object : Nat} {key : Address}
    (here : s.alive object = true) (place : s.addressOf object = key)
    (absent : s.cache.identities.get? key = none) (available : s.cache.next ≠ 0) :
    Remembers { s with
      owner := owner
      cache := ⟨s.cache.identities.set key ⟨s.cache.next, object⟩, s.cache.next + 1⟩
      answers := ⟨object, s.cache.next⟩ :: s.answers } := by
  have new : key ∉ s.cache.identities.keys := OrderedMap.get?_eq_none_iff.mp absent
  have first : ∀ answer ∈ s.answers, answer.object ≠ object := by
    rintro answer member rfl
    have found := h.kept answer member here
    rw [place, absent] at found
    cases found
  have fresh : ∀ answer ∈ s.answers, answer.identity ≠ s.cache.next :=
    fun answer member => ne_of_below available (h.below answer member)
  refine ⟨?_, ?_, ?_, ?_, ?_⟩
  · intro other entry found
    rcases (OrderedMap.get?_set_of_new_iff new).mp found with old | ⟨rfl, rfl⟩
    · obtain ⟨place', answered⟩ := h.located other entry old
      exact ⟨place', List.mem_cons_of_mem _ answered⟩
    · exact ⟨place, List.mem_cons_self⟩
  · intro answer member living
    refine (OrderedMap.get?_set_of_new_iff new).mpr ?_
    rcases List.mem_cons.mp member with rfl | old
    · exact Or.inr ⟨place, rfl⟩
    · exact Or.inl (h.kept answer old living)
  · intro answer member
    rcases List.mem_cons.mp member with rfl | old
    · exact objects.born object here
    · exact h.old answer old
  · intro answer member
    refine below_succ ?_
    rcases List.mem_cons.mp member with rfl | old
    · exact UInt64.le_refl _
    · exact UInt64.le_of_lt ((h.below answer old).resolve_left available)
  · intro a member b member'
    rcases List.mem_cons.mp member with rfl | old <;>
      rcases List.mem_cons.mp member' with rfl | old'
    · exact iff_of_true rfl rfl
    · exact iff_of_false (fresh b old').symm (first b old').symm
    · exact iff_of_false (fresh a old) (first a old)
    · exact h.injective a old b old'

end

theorem inv_conclude (h : s.Inv) {thread : Nat} {task : Task} (thrown : Option Exception)
    (current : s.threads[thread]? = some (.pruning task [])) :
    (s.conclude thread task thrown).Inv := by
  have held : ∀ object, Phase.holds object .idle = true → s.alive object = true :=
    fun _ holds => nomatch holds
  have objects : (s.setPhase thread .idle).Objects :=
    h.objects.setPhase held fun _ _ task => nomatch task
  have remembers : (s.setPhase thread .idle).Remembers := h.remembers.setPhase held
  -- nobody else is pruning
  have alone : ∀ (other : Nat) pruned remaining, (s.setPhase thread .idle).threads[other]? =
      some (.pruning pruned remaining) → False := by
    intro other pruned remaining found
    rcases getElem?_setPhase found with ⟨-, same⟩ | ⟨different, old⟩
    · cases same
    · have owner := h.scans.owned other pruned remaining old
      rw [h.scans.owned thread task [] current] at owner
      exact different (Option.some.inj owner).symm
  cases task with
  | cacheSize =>
      exact ⟨⟨objects.born, objects.apart, objects.keyed⟩,
        ⟨remembers.located, remembers.kept, remembers.old, remembers.below, remembers.injective⟩,
        ⟨fun other pruned remaining found => (alone other pruned remaining found).elim,
          fun other object key remaining found => (alone other _ remaining found).elim⟩⟩
  | identity object key =>
      have here : s.alive object = true := alive_of_holds current (by
        simp [Phase.holds, Phase.task, Task.holds])
      have place : s.addressOf object = key :=
        h.objects.keyed _ (List.mem_of_getElem? current) object key rfl
      have unlocked : ∀ cache answers, Remembers { s.setPhase thread .idle with
          owner := none, cache := cache, answers := answers } →
          Inv { s.setPhase thread .idle with owner := none, cache := cache, answers := answers } :=
        fun cache answers fits => ⟨⟨objects.born, objects.apart, objects.keyed⟩, fits,
          ⟨fun other pruned remaining found => (alone other pruned remaining found).elim,
            fun other object key remaining found => (alone other _ remaining found).elim⟩⟩
      have spec := spec_torchIdentity object key thrown s.cache
      cases result : torchIdentity object key thrown s.cache with
      | ok identity after =>
          simp only [conclude, result]
          rcases wp_of_ok spec result with ⟨entry, found, rfl, rfl⟩ | ⟨absent, available, rfl, rfl⟩
          · have same : entry.tensorImpl = object :=
              (h.scans.scanned thread object key [] current entry found).resolve_left
                List.not_mem_nil
            subst same
            exact unlocked _ _ ((h.remembers.answered found).setPhase held)
          · exact unlocked _ _
              ((h.remembers.assigned h.objects here place absent available).setPhase held)
      | error failure after =>
          simp only [conclude, result]
          obtain ⟨same, spent⟩ := wp_of_error spec result
          exact unlocked _ _ ((h.remembers.failed same spent).setPhase held)

theorem inv_step (h : s.Inv) {event : Event} {s' : IdentityState} (moves : step s event = some s') :
    s'.Inv := by
  cases event with
  | create address =>
      rw [step] at moves
      split at moves
      · rename_i free
        cases moves
        exact inv_create h free
      · cases moves
  | share object =>
      rw [step] at moves
      split at moves
      · rename_i here
        cases moves
        exact inv_setHandles h fun _ => here
      · cases moves
  | drop object =>
      rw [step] at moves
      split at moves
      · rename_i handles
        cases moves
        exact inv_setHandles h fun _ => alive_iff.mpr (Or.inl handles)
      · cases moves
  | query thread object =>
      rw [step] at moves
      split at moves
      · rename_i ready
        cases moves
        exact inv_query h ready.2
      · cases moves
  | countEntries thread =>
      rw [step] at moves
      split at moves
      · cases moves
        exact inv_countEntries h thread
      · cases moves
  | lock thread order =>
      simp only [step] at moves
      split at moves
      · rename_i task current
        split at moves
        · rename_i ready
          cases moves
          exact inv_lock h current ready.1 ready.2
        · cases moves
      · cases moves
  | visit thread =>
      simp only [step] at moves
      split at moves
      · rename_i task key rest current
        cases moves
        exact inv_visit h current
      · cases moves
  | finish thread thrown =>
      simp only [step] at moves
      split at moves
      · rename_i task current
        cases moves
        exact inv_conclude h thrown current
      · cases moves

theorem inv_run (h : s.Inv) {events : List Event} {s' : IdentityState}
    (moves : run s events = some s') : s'.Inv := by
  induction events generalizing s with
  | nil =>
      cases moves
      exact h
  | cons event rest ih =>
      obtain ⟨middle, first, later⟩ := Option.bind_eq_some_iff.mp moves
      exact ih (inv_step h first) later

end IdentityState

/-- Whatever the threads do, in whatever order, and wherever the allocator puts new objects: two
answers are equal exactly when they are about one object. -/
theorem answers_injective {threads : Nat} {events : List Event} {s : IdentityState}
    (moves : run (.initial threads) events = some s) :
    ∀ a ∈ s.answers, ∀ b ∈ s.answers, a.identity = b.identity ↔ a.object = b.object :=
  (IdentityState.inv_run (IdentityState.inv_initial threads) moves).remembers.injective

/-- An object dies, another is created at its address, and its first query fails to allocate. -/
def reuse : List Event :=
  [.create 4096, .query 0 0, .lock 0 [], .finish 0 none, .drop 0, .create 4096, .query 0 1,
    .query 1 1, .lock 0 [4096], .visit 0, .finish 0 (some .badAlloc), .lock 1 [], .finish 1 none]

theorem answers_injective_reuse : ∃ s, run (.initial 2) reuse = some s ∧
    s.answers = [⟨1, 2 ^ 63 + 2⟩, ⟨0, 2 ^ 63⟩] ∧ s.addressOf 0 = s.addressOf 1 ∧
    ∀ a ∈ s.answers, ∀ b ∈ s.answers, a.identity = b.identity ↔ a.object = b.object := by
  have result : (run (.initial 2) reuse).map (fun s => (s.answers, s.addressOf 0, s.addressOf 1)) =
      some ([⟨1, 2 ^ 63 + 2⟩, ⟨0, 2 ^ 63⟩], 4096, 4096) := by decide +kernel
  obtain ⟨s, moves, observed⟩ := Option.map_eq_some_iff.mp result
  simp only [Prod.mk.injEq] at observed
  exact ⟨s, moves, observed.1, observed.2.1.trans observed.2.2.symm, answers_injective moves⟩

end Tensora.TorchIdentities
