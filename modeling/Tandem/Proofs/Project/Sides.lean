import Tandem.Project.Comparison
import Tandem.Proofs.Machine.Without

/-!
The two sides of a comparison over one file system, move by move.

* `Shared`, `Answers`: what both sides share, and how it takes a call.
* `Side`, `Move`: what a side has still to do, and what may happen to it.
* `Joint`: the moves of both sides in any order. With the moves of one side only, it runs alone.
-/

namespace Tandem.Project.Sides

open Tandem.Host Tandem.Machine Tandem.Sandbox Tandem.Text
open Tandem.Host.Task (Event)

/-- How the system takes a call. -/
inductive Manner where
  /-- It does what it is asked to do, or says why it cannot. -/
  | faithful
  /-- It does nothing, whatever its reason. -/
  | refused
  /-- It gives up half way. -/
  | halfway
deriving DecidableEq, Repr

/-- What guests there are and what they do. A state is that of a guest and of all that it has
started. A guest touches nothing but the place of its working directory. -/
structure Guests (σ : Type) where
  /-- How a start may end in a directory: with a failure, or with a guest and whether there are
  pipes to both of its outputs. -/
  starts : Launch → Node → Except IoError (Bool × σ) → Prop
  /-- A step of its own: what stands at its place before, if anything does, and after. -/
  acts : σ → Option Node → σ → Option Node → Prop
  /-- What a call that is about a guest is answered, and does to it. -/
  meets : Event host → σ → σ → Prop

/-- What does not change while the sides run. -/
structure Ground (σ : Type) where
  /-- The directory that relative paths start from. -/
  directory : List String
  environment : List (Utf8.Bytes × Utf8.Bytes)
  processId : UInt32
  guests : Guests σ

/-- A guest that a side has started, and the place of its working directory. -/
structure Resident (σ : Type) where
  owner : Runtime
  place : List String
  state : σ

/-- What the sides share. No process id is given to two guests. -/
structure Shared (σ : Type) where
  files : Node
  /-- The least number that was not given out yet. -/
  counter : Nat
  guests : UInt32 → Option (Resident σ)

variable {σ : Type}

def Shared.settle (w : Shared σ) (pid : UInt32) (guest : Resident σ) : Shared σ :=
  { w with guests := fun other => if other = pid then some guest else w.guests other }

/-- The answer to a call that looks at one thing. -/
inductive Told {α : Type} (found : Except IoError α) : Manner → Except IoError α → Prop where
  | faithful : Told found .faithful found
  | refused (e : IoError) : Told found .refused (.error e)

/-- An entry of a listing that could not be read, or its kind. -/
def Unread (entry : Except IoError Entry) : Prop :=
  ∃ e, entry = .error e ∨ ∃ name, entry = .ok ⟨name, .error e⟩

/-- The answer to a call that lists a directory: its entries in any order, or some of them. -/
inductive Listed (found : Except IoError (List (Except IoError Entry))) :
    Manner → Except IoError (List (Except IoError Entry)) → Prop where
  | faithful {all listed : List (Except IoError Entry)} (shown : found = .ok all)
    (order : listed.Perm all) : Listed found .faithful (.ok listed)
  | failed {e : IoError} (shown : found = .error e) : Listed found .faithful (.error e)
  | refused (e : IoError) : Listed found .refused (.error e)
  | halfway {all listed : List (Except IoError Entry)} (shown : found = .ok all)
    (some : ∀ entry ∈ listed, entry ∈ all ∨ Unread entry) : Listed found .halfway (.ok listed)

/-- The answer to a call that changes files, and the files after it. `partly` is what may be left if
it gives up. -/
inductive Changed (files : Node) (made : Except IoError Node) (partly : Node → Prop) :
    Manner → Except IoError Unit → Node → Prop where
  | faithful {files' : Node} (done : made = .ok files') :
    Changed files made partly .faithful (.ok ()) files'
  | failed {e : IoError} (failed : made = .error e) :
    Changed files made partly .faithful (.error e) files
  | refused (e : IoError) : Changed files made partly .refused (.error e) files
  | halfway {files' : Node} (left : partly files') (e : IoError) :
    Changed files made partly .halfway (.error e) files'

/-- The answer to a side's call to start a guest. -/
inductive Started (g : Ground σ) (r : Runtime) (w : Shared σ) (launch : Launch) :
    Manner → Except IoError Child → Shared σ → Prop where
  | nowhere {path : Path} {e : IoError} (directory : launch.directory = some path)
    (lost : lookup w.files g.directory path = .error e) :
    Started g r w launch .faithful (.error e) w
  | failed {path : Path} {place : List String} {node : Node} {e : IoError}
    (directory : launch.directory = some path)
    (found : lookup w.files g.directory path = .ok (place, node))
    (start : g.guests.starts launch node (.error e)) : Started g r w launch .faithful (.error e) w
  | started {path : Path} {place : List String} {node : Node} {piped : Bool} {state : σ}
    {pid : UInt32} (directory : launch.directory = some path)
    (found : lookup w.files g.directory path = .ok (place, node))
    (start : g.guests.starts launch node (.ok (piped, state))) (fresh : w.guests pid = none) :
    Started g r w launch .faithful (.ok ⟨pid, piped⟩) (w.settle pid ⟨r, place, state⟩)
  | refused (e : IoError) : Started g r w launch .refused (.error e) w

/-- A call is about the guest of a process id, or the group that it leads. -/
def About (pid : UInt32) : Call → Prop
  | .feed child _ => child = pid
  | .poll child => child = pid
  | .wait child => child = pid
  | .killChild child => child = pid
  | .drain child _ _ => child = pid
  | .signalGroup group _ => group = pid
  | _ => False

/-- A call of a side, its answer, and what the sides share after it. Nothing is assumed about the
clock. A copy that is given up may have written anything to its target, and a directory that is not
removed to its end may hold anything still. A call that no side makes has no answer here. -/
def Answers (g : Ground σ) (r : Runtime) (w : Shared σ) (m : Manner) :
    Event host → Shared σ → Prop
  | ⟨.environment, answer⟩, w' => answer = g.environment ∧ w' = w
  | ⟨.processId, answer⟩, w' => answer = g.processId ∧ w' = w
  | ⟨.nextNumber, answer⟩, w' => ∃ n : Nat, answer = n ∧ w.counter ≤ n ∧
    w' = { w with counter := n + 1 }
  | ⟨.now, _⟩, w' | ⟨.sleep _, _⟩, w' => w' = w
  | ⟨.stat path, answer⟩, w' => Told (Files.stat ⟨w.files, g.directory⟩ path) m answer ∧ w' = w
  | ⟨.listDir path, answer⟩, w' =>
    Listed (Files.listDir ⟨w.files, g.directory⟩ path) m answer ∧ w' = w
  | ⟨.createDir path, answer⟩, w' =>
    ∃ files, Changed w.files (Files.createDir ⟨w.files, g.directory⟩ path) (fun _ => False) m
      answer files ∧ w' = { w with files }
  | ⟨.setMode path mode, answer⟩, w' =>
    ∃ files, Changed w.files (Files.setMode ⟨w.files, g.directory⟩ path mode) (fun _ => False) m
      answer files ∧ w' = { w with files }
  | ⟨.copyFile source target, answer⟩, w' =>
    ∃ files, Changed w.files (Files.copy ⟨w.files, g.directory⟩ source target)
      (fun left => ∃ bytes, Files.write ⟨w.files, g.directory⟩ target false bytes = .ok left) m
      answer files ∧ w' = { w with files }
  | ⟨.removeTree path, answer⟩, w' =>
    ∃ files, Changed w.files (Files.removeTree ⟨w.files, g.directory⟩ path)
      (fun left => ∃ found rest, locate w.files g.directory false path = .ok found ∧
        left = w.files.put found.names rest) m
      answer files ∧ w' = { w with files }
  | ⟨.spawn launch, answer⟩, w' => Started g r w launch m answer w'
  | e, w' => ∃ pid guest state, About pid e.1 ∧ w.guests pid = some guest ∧
    g.guests.meets e guest.state state ∧ w' = w.settle pid { guest with state }

/-- A guest of a side makes a step of its own. -/
inductive Acts (g : Ground σ) (r : Runtime) (w : Shared σ) (pid : UInt32) : Shared σ → Prop where
  | act {guest : Resident σ} {state : σ} {left : Option Node} (known : w.guests pid = some guest)
    (own : guest.owner = r)
    (acts : g.guests.acts guest.state (w.files.get? guest.place) state left) :
    Acts g r w pid
      ({ w with files := w.files.fill guest.place left }.settle pid { guest with state })

/-- What a side has still to do, and the directory that it has made to work in. Of a side that broke
down there is no record. -/
structure Side where
  task : Task host (Option Record)
  held : Option Path

/-- What may happen to a side. -/
inductive Move where
  /-- It makes a call, which is taken and answered like this. -/
  | call (m : Manner) (e : Event host)
  /-- A guest of its makes a step of its own. -/
  | guest (pid : UInt32)
  /-- It breaks down, and on the way out removes its working directory or does not come to it. -/
  | panic (removes : Bool)

/-- The first directory that a side makes is the one that it works in. -/
def holds (held : Option Path) : Event host → Option Path
  | ⟨.createDir path, .ok ()⟩ => held.or (some path)
  | _ => held

/-- What a side still does that breaks down in a working directory. -/
def leave (path : Path) : Task host (Option Record) := do
  WorkDir.remove ⟨path⟩
  return none

/-- A side before and after a move. Only a side that is not done breaks down. -/
inductive Side.Next : Side → Move → Side → Prop where
  | call {c : Call} {next : host.Reply c → Task host (Option Record)} {held : Option Path}
    (m : Manner) (answer : host.Reply c) :
    Side.Next ⟨.call c next, held⟩ (.call m ⟨c, answer⟩) ⟨next answer, holds held ⟨c, answer⟩⟩
  | guest (side : Side) (pid : UInt32) : Side.Next side (.guest pid) side
  | panic {c : Call} {next : host.Reply c → Task host (Option Record)} {held : Option Path} :
    Side.Next ⟨.call c next, held⟩ (.panic false) ⟨.done none, held⟩
  | unwind {c : Call} {next : host.Reply c → Task host (Option Record)} {path : Path} :
    Side.Next ⟨.call c next, some path⟩ (.panic true) ⟨leave path, some path⟩

/-- What the sides share before and after a move of one of them. -/
inductive Shared.Next (g : Ground σ) (r : Runtime) (w : Shared σ) : Move → Shared σ → Prop where
  | call {m : Manner} {e : Event host} {w' : Shared σ} (answers : Answers g r w m e w') :
    Shared.Next g r w (.call m e) w'
  | guest {pid : UInt32} {w' : Shared σ} (acts : Acts g r w pid w') :
    Shared.Next g r w (.guest pid) w'
  | panic (removes : Bool) : Shared.Next g r w (.panic removes) w

/-- Several moves of one side. -/
inductive Side.Makes : Side → List Move → Side → Prop where
  | done (side : Side) : Side.Makes side [] side
  | move {side next last : Side} {m : Move} {moves : List Move} (first : side.Next m next)
    (rest : Side.Makes next moves last) : Side.Makes side (m :: moves) last

/-- The moves of one side. -/
def only (r : Runtime) (moves : List (Runtime × Move)) : List (Runtime × Move) :=
  moves.filter fun move => move.1 = r

end Tandem.Project.Sides
