import Mathlib.Data.Finset.Card
import Nif.Proofs.Bench

/-!
**The buffers of native code are neither lost nor counted twice.**

* `Host.allocBinary_of_refused`, `Host.releaseBinary_outstanding`,
  `Request.makeBinaryFrom_outstanding`, `Buffer.allocate_gives`: what each symbol does to the count.
* `Bench.Sound`: what is counted and what is settled add up to what was allocated.
  `Sound.allocating` and `Sound.settling` keep it; `Bench.step_sound`: so every allowed use does.
* `Bench.buffers_balance`: after any run the host counts exactly the buffers that are not settled.
-/

namespace Nif

/-! ### Symbols -/

namespace Host

/-- The descriptor, if there is one, shows nothing. -/
theorem releaseBinary_of_null (host : Host) {bin : Option Descriptor}
    (null : bin.bind Descriptor.data = none) : (host.releaseBinary bin).2 = host := by
  rcases bin with _ | ⟨_ | bytes⟩
  · rfl
  · rfl
  · cases null

theorem allocBinary_of_refused (host : Host) {size : Nat} {bin : Option Descriptor}
    (refused : (host.allocBinary size bin).1.1 = 0) :
    (host.allocBinary size bin).1.2 = bin ∧
      (host.allocBinary size bin).2.outstanding = host.outstanding := by
  cases bin with
  | none => exact ⟨rfl, rfl⟩
  | some bin =>
    unfold allocBinary at refused ⊢
    dsimp only at refused ⊢
    split at refused
    · cases refused
    · rename_i large
      rw [if_neg large]
      exact ⟨rfl, rfl⟩

/-- An allocation that succeeds went into a descriptor, which shows the new buffer. -/
theorem allocBinary_of_accepted (host : Host) {size : Nat} {bin : Option Descriptor}
    (accepted : (host.allocBinary size bin).1.1 ≠ 0) :
    bin.isSome ∧ (host.allocBinary size bin).1.2 = some ⟨some (List.replicate size 0)⟩ ∧
      (host.allocBinary size bin).2.outstanding = host.outstanding + 1 := by
  cases bin with
  | none => exact absurd rfl accepted
  | some bin =>
    unfold allocBinary at accepted ⊢
    dsimp only at accepted ⊢
    split at accepted
    · rename_i fits
      rw [if_pos fits]
      exact ⟨rfl, rfl, rfl⟩
    · exact absurd rfl accepted

end Host

/-- How many buffers are given up through a pointer to a descriptor: one, if it shows one. -/
def Descriptor.given (bin : Option Descriptor) : Nat :=
  if (bin.bind Descriptor.data).isSome then 1 else 0

theorem Host.releaseBinary_outstanding (host : Host) (bin : Option Descriptor) :
    (host.releaseBinary bin).2.outstanding = host.outstanding - Descriptor.given bin := by
  rcases bin with _ | ⟨_ | bytes⟩ <;> rfl

theorem Request.makeBinaryFrom_outstanding (frame : Frame) (bin : Option Descriptor) :
    (makeBinaryFrom frame bin).2.host.outstanding =
      frame.host.outstanding - Descriptor.given bin := by
  rcases bin with _ | ⟨_ | bytes⟩
  · exact Host.outstanding_of_books frame.raise_books
  · exact Host.outstanding_of_books (frame.push_books _)
  · exact Host.outstanding_of_books
      (Frame.push_books { frame with host := frame.host.reclaim } (.binary bytes))

theorem Buffer.run_allocate (size : Nat) (host : Host) :
    (Buffer.allocate size).run.runDetached host =
      if size < Interface.allocationLimit then
        (.ok ⟨List.replicate size 0⟩, { host with outstanding := host.outstanding + 1 })
      else (.error (.allocationFailed size), host.note (.allocationRefused size)) := by
  change Program.runWith Request.refuse (Program.call (.allocBinary size (some {})) _) host = _
  rw [Program.runWith, Request.refuse, Host.allocBinary]
  dsimp only
  split <;> rfl

theorem Buffer.run_ofBytes (bytes : Bytes) (host : Host) :
    (Buffer.ofBytes bytes).run.runDetached host =
      if bytes.length < Interface.allocationLimit then
        (.ok ⟨bytes⟩, { host with outstanding := host.outstanding + 1 })
      else (.error (.allocationFailed bytes.length),
        host.note (.allocationRefused bytes.length)) := by
  have allocated := Buffer.run_allocate bytes.length host
  rw [Program.runDetached] at allocated
  rw [ofBytes, ExceptT.run_bind, Program.runDetached, Program.runWith_bind, allocated]
  by_cases fits : bytes.length < Interface.allocationLimit
  · rw [if_pos fits, if_pos fits]
    show (Except.ok ((Buffer.write? ⟨List.replicate bytes.length 0⟩ 0 bytes).getD _), _) = _
    rw [Make.write?_zeros]
    rfl
  · rw [if_neg fits, if_neg fits]
    rfl

/-- One buffer more is counted if the attempt gives one, and none if it fails. -/
def Attempt.GivesBuffer (attempt : Attempt Buffer) : Prop :=
  ∀ host : Host, (attempt.run.runDetached host).2.outstanding =
    host.outstanding + if (attempt.run.runDetached host).1.isOk then 1 else 0

theorem Buffer.allocate_gives (size : Nat) : (Buffer.allocate size).GivesBuffer := by
  intro host
  rw [run_allocate]
  split <;> rfl

theorem Buffer.ofBytes_gives (bytes : Bytes) : (Buffer.ofBytes bytes).GivesBuffer := by
  intro host
  rw [run_ofBytes]
  split <;> rfl

/-! ### Sessions -/

namespace Session

/-- An operation in an environment starts and ends with the host of the session. -/
theorem inEnvironment_host {α : Type} {session later : Session} {env : Nat}
    {operation : Frame → α × Frame} {result : α}
    (done : session.inEnvironment env operation = some (result, later)) :
    ∃ frame : Frame, frame.host = session.host ∧ later.host = (operation frame).2.host := by
  obtain ⟨frame, opened, same⟩ := Option.map_eq_some_iff.mp done
  obtain ⟨current, -, rfl⟩ := Option.map_eq_some_iff.mp opened
  obtain ⟨-, rfl⟩ := Prod.mk.inj same
  exact ⟨_, rfl, rfl⟩

/-- What leaves the count of every frame as it was leaves that of the session as it was. -/
theorem settled_outstanding {α : Type} {session : Session} {env : Nat}
    {operation : Frame → α × Frame}
    (balanced : ∀ frame, (operation frame).2.host.outstanding = frame.host.outstanding) :
    (session.settled (session.inEnvironment env operation)).host.outstanding =
      session.host.outstanding := by
  cases done : session.inEnvironment env operation with
  | none => rfl
  | some ended =>
    obtain ⟨frame, start, finish⟩ := inEnvironment_host done
    show ended.2.host.outstanding = _
    rw [finish, balanced, start]

end Session

namespace Bench

/-! ### What every use keeps -/

/-- What is counted and what is settled add up to what was allocated. A descriptor that is not null
shows a buffer without an owner, and no owned buffer is settled. -/
structure Sound (bench : Bench) : Prop where
  count : bench.session.host.outstanding + bench.settled.card = bench.allocated
  settled : ∀ buffer ∈ bench.settled, buffer < bench.allocated
  places : ∀ place, (bench.places place).shown.data ≠ none → ∃ buffer,
    (bench.places place).buffer = some buffer ∧ buffer < bench.allocated ∧ bench.owned buffer = none
  owned : ∀ buffer held, bench.owned buffer = some held →
    buffer < bench.allocated ∧ buffer ∉ bench.settled

namespace Sound

variable {bench later : Bench}

/-- The host counts the buffers that are not settled. -/
theorem outstanding (sound : bench.Sound) :
    bench.session.host.outstanding = bench.pending.card := by
  have inside : bench.settled ⊆ Finset.range bench.allocated := fun buffer member =>
    Finset.mem_range.mpr (sound.settled buffer member)
  have count := sound.count
  rw [pending, Finset.card_sdiff_of_subset inside, Finset.card_range]
  omega

/-- A descriptor shows an allocated buffer that has no owner, if it is not null. -/
theorem shows (sound : bench.Sound) (place : Option Nat) :
    Descriptor.given (bench.shown? place) = (bench.shows place).toFinset.card ∧
      ∀ buffer ∈ bench.shows place, buffer < bench.allocated ∧ bench.owned buffer = none := by
  cases place with
  | none => exact ⟨rfl, nofun⟩
  | some place =>
    show Descriptor.given (some (bench.places place).shown) =
      (bench.places place).shows.toFinset.card ∧ ∀ buffer ∈ (bench.places place).shows, _
    cases shown : (bench.places place).shown.data with
    | none =>
      have nothing : (bench.places place).shows = none := by
        rw [Place.shows, shown, Option.bind_none]
      rw [nothing, Descriptor.given, Option.bind_some, shown]
      exact ⟨rfl, nofun⟩
    | some bytes =>
      obtain ⟨buffer, labelled, old, free⟩ := sound.places place (by rw [shown]; simp)
      have this : (bench.places place).shows = some buffer := by
        rw [Place.shows, shown, Option.bind_some, labelled]
      rw [this, Descriptor.given, Option.bind_some, shown]
      refine ⟨rfl, ?_⟩
      rintro _ ⟨⟩
      exact ⟨old, free⟩

/-- What settles one buffer, or none, while the host counts one buffer less, or none. -/
theorem settling (sound : bench.Sound) (buffer : Option Nat)
    (held : ∀ one ∈ buffer, one < bench.allocated ∧ one ∉ bench.settled)
    (count : later.session.host.outstanding = bench.session.host.outstanding - buffer.toFinset.card)
    (allocated : later.allocated = bench.allocated)
    (settled : later.settled = bench.settled ∪ buffer.toFinset)
    (places : ∀ place, (later.places place).shown.data ≠ none →
      ∃ before, later.places place = bench.places before)
    (owned : ∀ one held, later.owned one = some held →
      one ∉ buffer ∧ ∃ before, bench.owned one = some before) :
    later.Sound := by
  have apart : Disjoint bench.settled buffer.toFinset :=
    Finset.disjoint_right.mpr fun one member => (held one (Option.mem_toFinset.mp member)).2
  have old : ∀ one ∈ later.settled, one < later.allocated := by
    intro one member
    rw [settled, Finset.mem_union, Option.mem_toFinset] at member
    rw [allocated]
    exact member.elim (sound.settled one) fun this => (held one this).1
  refine ⟨?_, old, ?_, ?_⟩
  · -- No more are settled than were allocated, so what is taken from the count is there.
    have inside : later.settled ⊆ Finset.range later.allocated := fun one member =>
      Finset.mem_range.mpr (old one member)
    have enough := Finset.card_le_card inside
    have before := sound.count
    rw [Finset.card_range, allocated, settled, Finset.card_union_of_disjoint apart] at enough
    rw [count, allocated, settled, Finset.card_union_of_disjoint apart]
    omega
  · intro place shown
    obtain ⟨before, same⟩ := places place shown
    rw [same] at shown ⊢
    obtain ⟨one, labelled, inside, free⟩ := sound.places before shown
    refine ⟨one, labelled, by rw [allocated]; exact inside,
      Option.eq_none_iff_forall_ne_some.mpr ?_⟩
    intro held owner
    obtain ⟨-, before, owner⟩ := owned one held owner
    rw [free] at owner
    cases owner
  · intro one held owner
    obtain ⟨other, before, owner⟩ := owned one held owner
    obtain ⟨inside, free⟩ := sound.owned one before owner
    refine ⟨by rw [allocated]; exact inside, ?_⟩
    rw [settled, Finset.mem_union, Option.mem_toFinset]
    exact not_or.mpr ⟨free, other⟩

/-- What neither allocates nor settles a buffer. -/
theorem keeping (sound : bench.Sound)
    (count : later.session.host.outstanding = bench.session.host.outstanding)
    (allocated : later.allocated = bench.allocated) (settled : later.settled = bench.settled)
    (places : ∀ place, (later.places place).shown.data ≠ none →
      ∃ before, later.places place = bench.places before)
    (owned : ∀ one held, later.owned one = some held → ∃ before, bench.owned one = some before) :
    later.Sound := by
  have none : ∀ one, one ∉ (none : Option Nat) := fun one member => by cases member
  refine sound.settling .none (fun one member => absurd member (none one)) count allocated
    ?_ places ?_
  · rw [settled]
    exact (Finset.union_empty _).symm
  · exact fun one held owner => ⟨none one, owned one held owner⟩

/-- What happens in the session alone. -/
theorem session (sound : bench.Sound) {session : Session}
    (count : session.host.outstanding = bench.session.host.outstanding) :
    { bench with session }.Sound :=
  sound.keeping count rfl rfl (fun place _ => ⟨place, rfl⟩) fun _ held owner => ⟨held, owner⟩

/-- What allocates one buffer, into a descriptor or for an owner. -/
theorem allocating (sound : bench.Sound)
    (count : later.session.host.outstanding = bench.session.host.outstanding + 1)
    (allocated : later.allocated = bench.allocated + 1) (settled : later.settled = bench.settled)
    (places : ∀ place, later.places place = bench.places place ∨
      (later.places place).buffer = some bench.allocated ∧ later.owned bench.allocated = none)
    (owned : ∀ one held, later.owned one = some held →
      one = bench.allocated ∨ ∃ before, bench.owned one = some before) : later.Sound := by
  refine ⟨?_, ?_, ?_, ?_⟩
  · rw [count, settled, allocated, ← sound.count]
    omega
  · intro one member
    rw [settled] at member
    rw [allocated]
    exact Nat.lt_succ_of_lt (sound.settled one member)
  · intro place shown
    rcases places place with same | ⟨labelled, free⟩
    · rw [same] at shown ⊢
      obtain ⟨one, labelled, inside, free⟩ := sound.places place shown
      refine ⟨one, labelled, by omega, Option.eq_none_iff_forall_ne_some.mpr fun held owner => ?_⟩
      rcases owned one held owner with rfl | ⟨before, owner⟩
      · omega
      · rw [free] at owner
        cases owner
    · exact ⟨_, labelled, by omega, free⟩
  · intro one held owner
    rw [settled, allocated]
    rcases owned one held owner with rfl | ⟨before, owner⟩
    · exact ⟨Nat.lt_succ_self _, fun member => absurd (sound.settled _ member) (Nat.lt_irrefl _)⟩
    · obtain ⟨inside, free⟩ := sound.owned one before owner
      exact ⟨Nat.lt_succ_of_lt inside, free⟩

end Sound

/-! ### One use -/

section Uses

variable {bench : Bench}

theorem store_of_ne {place other : Nat} (apart : other ≠ place) (shown : Option Descriptor) :
    (bench.store (some place) shown).places other = bench.places other := by
  cases shown with
  | none => rfl
  | some shown => exact Function.update_of_ne apart _ _

theorem store_self (place : Nat) (shown : Descriptor) :
    ((bench.store (some place) (some shown)).places place).shown = shown := by
  show (Function.update bench.places place _ place).shown = shown
  rw [Function.update_self]

theorem label_of_ne {place other : Nat} (apart : other ≠ place) :
    (bench.label (some place)).places other = bench.places other :=
  Function.update_of_ne apart _ _

theorem label_self (place : Nat) :
    ((bench.label (some place)).places place).buffer = some bench.allocated := by
  show (Function.update bench.places place _ place).buffer = _
  rw [Function.update_self]

/-- A descriptor in which nothing new was stored is as it was. -/
theorem store_shown (bench : Bench) (place : Option Nat) :
    bench.store place (bench.shown? place) = bench := by
  cases place with
  | none => rfl
  | some place =>
    show { bench with places := Function.update bench.places place (bench.places place) } = bench
    rw [Function.update_eq_self]

/-- The next buffer has no owner yet. -/
theorem Sound.free (sound : bench.Sound) : bench.owned bench.allocated = none := by
  refine Option.eq_none_iff_forall_ne_some.mpr fun held owner => ?_
  exact Nat.lt_irrefl _ (sound.owned _ held owner).1

theorem alloc_sound (sound : bench.Sound) (size : Nat) (place : Option Nat) :
    (bench.alloc size place).Sound := by
  show (if (bench.session.host.allocBinary size (bench.shown? place)).1.1 = 0 then _ else _ :
    Bench).Sound
  by_cases refused : (bench.session.host.allocBinary size (bench.shown? place)).1.1 = 0
  · obtain ⟨same, count⟩ := bench.session.host.allocBinary_of_refused refused
    rw [if_pos refused]
    show (Bench.store _ place (bench.session.host.allocBinary size (bench.shown? place)).1.2).Sound
    rw [same]
    exact (store_shown { bench with session := _ } place).symm ▸ sound.session count
  · obtain ⟨there, shown, count⟩ := bench.session.host.allocBinary_of_accepted refused
    rw [if_neg refused]
    cases place with
    | none => cases there
    | some place =>
      show (Bench.label (Bench.store _ (some place)
        (bench.session.host.allocBinary size (bench.shown? (some place))).1.2) (some place)).Sound
      rw [shown]
      refine sound.allocating count rfl rfl ?_ fun one held owner => Or.inr ⟨held, owner⟩
      intro other
      by_cases same : other = place
      · subst same
        exact Or.inr ⟨label_self other, sound.free⟩
      · exact Or.inl ((label_of_ne same).trans (store_of_ne same _))

/-- A copy shows what the original shows. -/
theorem copy_sound (sound : bench.Sound) (source target : Nat) :
    { bench with places := Function.update bench.places target (bench.places source) }.Sound := by
  refine sound.keeping rfl rfl rfl (fun place _ => ?_) fun _ held owner => ⟨held, owner⟩
  by_cases same : place = target
  · subst same
    exact ⟨source, Function.update_self _ _ _⟩
  · exact ⟨place, Function.update_of_ne same _ _⟩

theorem wrap_sound (sound : bench.Sound) {env place : Option Nat}
    (allowed : bench.Allows (.wrap env place)) : (bench.wrap env place).Sound := by
  cases env with
  | none => exact sound.session rfl
  | some env =>
    unfold wrap
    cases done : bench.session.run (some env) (Symbol.makeBinary (bench.shown? place)) with
    | none => exact sound
    | some ended =>
      obtain ⟨frame, start, finish⟩ := Session.inEnvironment_host done
      obtain ⟨given, there⟩ := sound.shows place
      have count := Request.makeBinaryFrom_outstanding frame (bench.shown? place)
      rw [start, given] at count
      refine sound.settling _ (fun buffer shown => ⟨(there buffer shown).1, allowed buffer shown⟩)
        ((congrArg Host.outstanding finish).trans count) rfl rfl (fun place _ => ⟨place, rfl⟩) ?_
      refine fun buffer held owner => ⟨fun shown => ?_, held, owner⟩
      rw [(there buffer shown).2] at owner
      cases owner

theorem release_sound (sound : bench.Sound) {place : Option Nat}
    (allowed : bench.Allows (.release place)) : (bench.release place).Sound := by
  obtain ⟨given, there⟩ := sound.shows place
  have count := bench.session.host.releaseBinary_outstanding (bench.shown? place)
  rw [given] at count
  cases place with
  | none =>
    exact sound.keeping rfl rfl (Finset.union_empty _) (fun place _ => ⟨place, rfl⟩)
      fun _ held owner => ⟨held, owner⟩
  | some place =>
    have emptied : (bench.session.host.releaseBinary (bench.shown? (some place))).1 = some {} := by
      show (bench.session.host.releaseBinary (some (bench.places place).shown)).1 = some {}
      rcases (bench.places place).shown with ⟨_ | bytes⟩ <;> rfl
    show (Bench.store _ (some place)
      (bench.session.host.releaseBinary (bench.shown? (some place))).1).Sound
    rw [emptied]
    refine sound.settling _ (fun buffer shown => ⟨(there buffer shown).1, allowed buffer shown⟩)
      count rfl rfl (fun other shown => ?_) fun buffer held owner => ⟨fun shown => ?_, held, owner⟩
    · by_cases same : other = place
      · subst same
        rw [store_self] at shown
        exact absurd rfl shown
      · exact ⟨other, store_of_ne same _⟩
    · have free : bench.owned buffer = none := (there buffer shown).2
      cases free.symm.trans owner

theorem adopt_sound (sound : bench.Sound) {attempt : Attempt Buffer} (gives : attempt.GivesBuffer) :
    (bench.adopt (bench.session.onHost attempt.run.runDetached)).Sound := by
  have count := gives bench.session.host
  show (bench.adopt ((attempt.run.runDetached bench.session.host).1,
    { bench.session with host := (attempt.run.runDetached bench.session.host).2 })).Sound
  generalize attempt.run.runDetached bench.session.host = made at count ⊢
  rcases made with ⟨fault | held, host⟩
  · exact sound.session count
  · refine sound.allocating count rfl rfl (fun _ => Or.inl rfl) fun one held owner => ?_
    by_cases same : one = bench.allocated
    · exact Or.inl same
    · rw [adopt] at owner
      dsimp only at owner
      rw [Function.update_of_ne same] at owner
      exact Or.inr ⟨held, owner⟩

theorem write_sound (sound : bench.Sound) (buffer position : Nat) (bytes : Bytes) :
    (bench.write buffer position bytes).Sound := by
  unfold write
  cases owner : bench.owned buffer with
  | none => exact sound
  | some held =>
    dsimp only
    refine sound.keeping rfl rfl rfl (fun place _ => ⟨place, rfl⟩) fun one after owns => ?_
    by_cases same : one = buffer
    · subst same
      exact ⟨held, owner⟩
    · dsimp only at owns
      rw [Function.update_of_ne same] at owns
      exact ⟨after, owns⟩

/-- The owners that are left after one has gone. -/
theorem owned_of_disown {buffer one : Nat} {held : Buffer} {session : Session}
    (owner : (bench.disown buffer session).owned one = some held) :
    one ≠ buffer ∧ bench.owned one = some held := by
  have updated : Function.update bench.owned buffer none one = some held := owner
  have apart : one ≠ buffer := by
    rintro rfl
    rw [Function.update_self] at updated
    cases updated
  rw [Function.update_of_ne apart] at updated
  exact ⟨apart, updated⟩

/-- An owner that is there gives up a buffer that is not settled. -/
theorem disown_sound (sound : bench.Sound) {buffer : Nat} {held : Buffer} {session : Session}
    (owner : bench.owned buffer = some held)
    (count : session.host.outstanding = bench.session.host.outstanding - 1) :
    (bench.disown buffer session).Sound := by
  refine sound.settling (some buffer) ?_ count rfl rfl (fun place _ => ⟨place, rfl⟩) ?_
  · rintro _ ⟨⟩
    exact sound.owned buffer held owner
  · intro one other owns
    obtain ⟨apart, there⟩ := owned_of_disown owns
    exact ⟨fun same => apart (Option.mem_some_iff.mp same).symm, other, there⟩

theorem intoTerm_sound (sound : bench.Sound) (buffer env : Nat) :
    (bench.intoTerm buffer env).Sound := by
  unfold intoTerm
  cases owner : bench.owned buffer with
  | none => exact sound
  | some held =>
    rw [Option.bind_some]
    cases done : bench.session.run (some env) held.toTerm with
    | none => exact sound
    | some ended =>
      obtain ⟨frame, start, finish⟩ := Session.inEnvironment_host done
      have count := Request.makeBinaryFrom_outstanding frame (some held.descriptor)
      rw [start] at count
      exact disown_sound sound owner ((congrArg Host.outstanding finish).trans count)

theorem drop_sound (sound : bench.Sound) (buffer : Nat) : (bench.drop buffer).Sound := by
  unfold drop
  cases owner : bench.owned buffer with
  | none => exact sound
  | some held => exact disown_sound sound owner rfl

/-- **Every allowed use keeps the balance.** -/
theorem step_sound (sound : bench.Sound) {use : Use} (allowed : bench.Allows use) :
    (bench.step use).Sound := by
  cases use with
  | openEnvironment => exact sound.session rfl
  | alloc size place => exact alloc_sound sound size place
  | copy source target => exact copy_sound sound source target
  | wrap env place => exact wrap_sound sound allowed
  | release place => exact release_sound sound allowed
  | own size => exact adopt_sound sound (Buffer.allocate_gives size)
  | ownCopy bytes => exact adopt_sound sound (Buffer.ofBytes_gives bytes)
  | write buffer position bytes => exact write_sound sound buffer position bytes
  | intoTerm buffer env => exact intoTerm_sound sound buffer env
  | drop buffer => exact drop_sound sound buffer
  | make env maker => exact sound.session (Session.settled_outstanding maker.attempt_balanced)
  | encode env data => exact sound.session (Session.settled_outstanding data.encode_balanced)
  | call handle env name args =>
    refine sound.session ?_
    unfold Session.call
    cases loaded : bench.session.module? handle with
    | none => rfl
    | some module =>
      exact Session.settled_outstanding (module.call_balanced fun function found =>
        allowed module function loaded found)

end Uses

/-! ### Whole runs -/

theorem after_sound {bench : Bench} {uses : List Use} (sound : bench.Sound)
    (respects : bench.Respects uses) :
    (bench.after uses).Sound := by
  induction uses generalizing bench with
  | nil => exact sound
  | cons use rest ih =>
    obtain ⟨allowed, others⟩ := respects
    exact ih (step_sound sound allowed) others

/-- Before anything was done there is nothing to keep. -/
theorem sound_of_idle {session : Session} (idle : session.host.outstanding = 0) :
    Sound { session } := by
  refine ⟨idle, ?_, fun _ shown => absurd rfl shown, ?_⟩
  · intro buffer member
    cases Finset.notMem_empty buffer member
  · intro buffer held owner
    cases owner

/-- **Buffers are neither lost nor counted twice.** In every run that settles no buffer a second
time, the host counts exactly the buffers that were allocated and are not settled; since the count
and the settled buffers add up to the allocated ones, nothing is ever taken from a count of zero. An
allocation that fails changes neither the descriptor nor the count, while one of no bytes counts;
releasing nothing changes nothing; without an environment no buffer is handed over; and what makes
binaries of its own, or fails on the way, leaves the count as it was. -/
theorem buffers_balance {session : Session} (idle : session.host.outstanding = 0) {uses : List Use}
    (respects : Respects { session } uses) :
    (after { session } uses).session.host.outstanding = (after { session } uses).pending.card ∧
      (after { session } uses).session.host.outstanding + (after { session } uses).settled.card =
        (after { session } uses).allocated ∧
      (∀ (host : Host) (size : Nat) (bin : Option Descriptor), (host.allocBinary size bin).1.1 = 0 →
        (host.allocBinary size bin).1.2 = bin ∧
          (host.allocBinary size bin).2.outstanding = host.outstanding) ∧
      (∀ (host : Host) (bin : Descriptor), (host.allocBinary 0 (some bin)).1 = (1, some ⟨some []⟩) ∧
        (host.allocBinary 0 (some bin)).2.outstanding = host.outstanding + 1) ∧
      (∀ (host : Host) (bin : Option Descriptor), bin.bind Descriptor.data = none →
        (host.releaseBinary bin).2 = host) ∧
      (∀ (host : Host) (bin : Option Descriptor),
        ((Symbol.makeBinary bin).runDetached host).1 = Word.nonValue ∧
          ((Symbol.makeBinary bin).runDetached host).2.outstanding = host.outstanding) ∧
      (∀ bytes, (Make.tryBinary bytes).Balanced) ∧ (∀ text, (Make.text text).Balanced) ∧
      ∀ data : Data, data.encode.Balanced := by
  have sound := after_sound (sound_of_idle idle) respects
  refine ⟨sound.outstanding, sound.count, ?_, ?_, ?_, ?_, Make.tryBinary_balanced,
    Make.text_balanced, Data.encode_balanced⟩
  · exact fun host size bin => host.allocBinary_of_refused
  · exact fun host bin => ⟨rfl, rfl⟩
  · exact fun host bin => host.releaseBinary_of_null
  · exact fun host bin => ⟨rfl, rfl⟩

/-- A descriptor is used twice, so that its first buffer of no bytes stays held for good; the second
buffer is handed over, an owned one goes with its owner, and a value fails after its first part. -/
def mixedUses : List Use :=
  [.openEnvironment, .alloc 0 (some 0), .alloc 3 (some 0), .wrap none (some 0),
    .wrap (some 0) (some 0),
    .release (some 1), .ownCopy [1, 2], .encode 0 (.pair (.bytes [7]) (.failure .badArg)), .drop 2]

theorem buffers_balance_mixed :
    Session.fresh.host.outstanding = 0 ∧ Respects { session := Session.fresh } mixedUses ∧
      (after { session := Session.fresh } mixedUses).allocated = 3 ∧
      (after { session := Session.fresh } mixedUses).pending = {0} ∧
      (after { session := Session.fresh } mixedUses).session.host.outstanding = 1 := by
  have idle : Session.fresh.host.outstanding = 0 := rfl
  have respects : Respects { session := Session.fresh } mixedUses := by
    refine ⟨trivial, trivial, trivial, trivial, ?_, ?_, trivial, trivial, trivial, trivial⟩
    · rintro buffer ⟨⟩
      decide
    · rintro buffer ⟨⟩
  have pending : (after { session := Session.fresh } mixedUses).pending = {0} := by decide
  obtain ⟨count, -⟩ := buffers_balance idle respects
  rw [pending] at count
  exact ⟨idle, respects, rfl, pending, count⟩

end Bench

end Nif
