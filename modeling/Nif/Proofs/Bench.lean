import Mathlib.Data.Finset.Basic
import Mathlib.Data.Finset.Option
import Mathlib.Logic.Function.Basic
import Nif.Proofs.Balance
import Nif.Proofs.Operation

/-!
**Native code at work with buffers and terms.**

Buffers are numbered in the order of their allocation. Native code holds them through descriptors,
which may be overwritten, and through values that own one buffer each. A buffer is settled when it
is released or handed to an environment.

* `Use`: what native code can do. `Bench.step` does one thing, `Bench.after` one thing after the
  other.
* `Bench.pending`: the buffers that were allocated and are not settled.
* `Bench.Allows`, `Bench.Respects`: the rule that no buffer is settled a second time. Only
  descriptors can break it, as an owner gives its buffer up once.
-/

namespace Nif

/-- What native code can do with buffers and terms. Descriptors and environments are named by their
places, and may be null; owned buffers are named by their numbers. -/
inductive Use where
  | openEnvironment
  /-- Allocates a buffer into a descriptor, used or not. -/
  | alloc (size : Nat) (place : Option Nat)
  /-- Copies a descriptor, so that two show the same buffer. -/
  | copy (source target : Nat)
  /-- Hands the buffer of a descriptor to an environment. -/
  | wrap (env : Option Nat) (place : Option Nat)
  | release (place : Option Nat)
  /-- A zeroed buffer with an owner. -/
  | own (size : Nat)
  /-- A copy of bytes with an owner. -/
  | ownCopy (bytes : Bytes)
  /-- Overwrites an owned buffer from a position on, if the bytes fit into it. -/
  | write (buffer position : Nat) (bytes : Bytes)
  /-- The owner hands its buffer to an environment, and is gone. -/
  | intoTerm (buffer env : Nat)
  /-- The owner goes, and its buffer with it. -/
  | drop (buffer : Nat)
  | make (env : Nat) (maker : Maker)
  | encode (env : Nat) (data : Data)
  | call (handle env : Nat) (name : String) (args : List Word)

/-- A descriptor of native code, and the number of the buffer that was allocated into it last. -/
structure Place where
  shown : Descriptor := {}
  buffer : Option Nat := none

/-- The buffer that the descriptor shows, none while its pointer is null. -/
def Place.shows (place : Place) : Option Nat := place.shown.data.bind fun _ => place.buffer

/-- Native code at work in a session: its descriptors and owned buffers, how many buffers were
allocated, and which of them were released or made into terms. -/
structure Bench where
  session : Session
  places : Nat → Place := fun _ => {}
  owned : Nat → Option Buffer := fun _ => none
  allocated : Nat := 0
  settled : Finset Nat := ∅

namespace Bench

/-- The buffers that were allocated and are not settled. -/
def pending (bench : Bench) : Finset Nat := Finset.range bench.allocated \ bench.settled

/-- What stands in a descriptor. -/
def shown? (bench : Bench) (place : Option Nat) : Option Descriptor :=
  place.map fun place => (bench.places place).shown

/-- The buffer that a descriptor shows. -/
def shows (bench : Bench) (place : Option Nat) : Option Nat :=
  place.bind fun place => (bench.places place).shows

/-- Writes what a symbol has left in a descriptor; a null pointer takes nothing. -/
def store (bench : Bench) (place : Option Nat) (shown : Option Descriptor) : Bench :=
  match place, shown with
  | some place, some shown =>
    { bench with places := Function.update bench.places place { bench.places place with shown } }
  | _, _ => bench

/-- One more buffer was allocated, into a descriptor. -/
def label (bench : Bench) (place : Option Nat) : Bench :=
  { bench with
    places := place.elim bench.places fun place =>
      Function.update bench.places place { bench.places place with buffer := bench.allocated }
    allocated := bench.allocated + 1 }

/-- Takes over an owned buffer, if it could be allocated. -/
def adopt (bench : Bench) (made : Except Fault Buffer × Session) : Bench :=
  match made with
  | (.ok held, session) =>
    { bench with
      session
      owned := Function.update bench.owned bench.allocated (some held)
      allocated := bench.allocated + 1 }
  | (.error _, session) => { bench with session }

/-- The buffer has no owner any more, and is settled. -/
def disown (bench : Bench) (buffer : Nat) (session : Session) : Bench :=
  { bench with
    session
    owned := Function.update bench.owned buffer none
    settled := bench.settled ∪ {buffer} }

def alloc (bench : Bench) (size : Nat) (place : Option Nat) : Bench :=
  let reply := bench.session.onHost (Symbol.allocBinary size (bench.shown? place)).runDetached
  let stored := { bench with session := reply.2 }.store place reply.1.2
  if reply.1.1 = 0 then stored else stored.label place

/-- Without an environment nothing is given up. With one the descriptor's buffer is, also when the
heap is full and no term comes of it. -/
def wrap (bench : Bench) (env place : Option Nat) : Bench :=
  match env, bench.session.run env (Symbol.makeBinary (bench.shown? place)) with
  | _, none => bench
  | none, some (_, session) => { bench with session }
  | some _, some (_, session) =>
    { bench with session, settled := bench.settled ∪ (bench.shows place).toFinset }

def release (bench : Bench) (place : Option Nat) : Bench :=
  let reply := bench.session.onHost (Symbol.releaseBinary (bench.shown? place)).runDetached
  let settled := bench.settled ∪ (bench.shows place).toFinset
  { bench with session := reply.2, settled }.store place reply.1

def write (bench : Bench) (buffer position : Nat) (bytes : Bytes) : Bench :=
  match bench.owned buffer with
  | some held =>
    { bench with
      owned := Function.update bench.owned buffer (some ((held.write? position bytes).getD held)) }
  | none => bench

def intoTerm (bench : Bench) (buffer env : Nat) : Bench :=
  match (bench.owned buffer).bind fun held => bench.session.run (some env) held.toTerm with
  | some (_, session) => bench.disown buffer session
  | none => bench

def drop (bench : Bench) (buffer : Nat) : Bench :=
  match bench.owned buffer with
  | some held => bench.disown buffer (bench.session.onHost held.release.runDetached).2
  | none => bench

/-- Does one thing; what names no environment, module or owned buffer that is there does nothing. -/
def step (bench : Bench) : Use → Bench
  | .openEnvironment => { bench with session := bench.session.openEnvironment.2 }
  | .alloc size place => bench.alloc size place
  | .copy source target =>
    { bench with places := Function.update bench.places target (bench.places source) }
  | .wrap env place => bench.wrap env place
  | .release place => bench.release place
  | .own size => bench.adopt (bench.session.onHost (Buffer.allocate size).run.runDetached)
  | .ownCopy bytes => bench.adopt (bench.session.onHost (Buffer.ofBytes bytes).run.runDetached)
  | .write buffer position bytes => bench.write buffer position bytes
  | .intoTerm buffer env => bench.intoTerm buffer env
  | .drop buffer => bench.drop buffer
  | .make env maker =>
    { bench with session := bench.session.settled (bench.session.run (some env) maker.attempt.run) }
  | .encode env data =>
    { bench with session := bench.session.settled (bench.session.run (some env) data.encode.run) }
  | .call handle env name args =>
    { bench with session := bench.session.settled (bench.session.call handle env name args) }

/-- Does one thing after the other. -/
def after (bench : Bench) (uses : List Use) : Bench := uses.foldl step bench

/-- The rule: what a descriptor shows is handed over or released only as long as it is not settled.
Functions that are called are typed ones. -/
def Allows (bench : Bench) : Use → Prop
  | .wrap (some _) place | .release place => ∀ buffer ∈ bench.shows place, buffer ∉ bench.settled
  | .call handle _ name args => ∀ module function, bench.session.module? handle = some module →
      module.function? name args.length = some function →
        ∃ handler : Handler, function.body = handler.native
  | _ => True

/-- The rule is kept at every step. -/
def Respects (bench : Bench) : List Use → Prop
  | [] => True
  | use :: rest => bench.Allows use ∧ (bench.step use).Respects rest

end Bench

end Nif
