import ResponsiveImages.Live.Matcher

/-!
# Scripted Callbacks

Callbacks that are given as scripts: a callback notes its name whenever it
runs, and the first time it also makes the calls of its script on the matcher
that runs it. Those calls may subscribe further scripted callbacks, to any
depth.

A script is performed once, so the scripts in play only ever get fewer, and
the number of calls written down bounds how deep performances can nest
(`Call.weight`). That number is the fuel of `ScriptedCallback.run`.

## Main definitions

* `Call`: A call on a matcher.
* `Answer`: The answer to a call.
* `ScriptedCallback`: A callback with its script.
* `Note`: What is noted down while callbacks run.
* `Performance`: What has been noted and which scripts have been performed.
* `ScriptedCallback.run`: Running a callback.
* `Call.perform`: Making a call.
-/

namespace ResponsiveImages

/-- A call on a matcher. -/
inductive Call where
  | subscribe (name query : Text) (script : List Call)
  | resize (v : Viewport)
  | size

/-- The answer to a call. -/
inductive Answer where
  /-- The position of a new subscription. -/
  | position (n : Nat)
  /-- The number of callbacks that were entered. -/
  | fired (n : Nat)
  /-- The number of subscriptions. -/
  | size (n : Nat)
  deriving DecidableEq, Repr

/-- A callback that performs a script the first time it runs. -/
structure ScriptedCallback where
  /-- A number no other callback has. -/
  id : Nat
  name : Text
  script : List Call

/-- What is noted down while callbacks run. -/
inductive Note where
  | ran (name : Text)
  | answered (a : Answer)
  deriving DecidableEq, Repr

/-- What has been noted so far, and which scripts have been performed. -/
structure Performance where
  notes : List Note := []
  performed : List Nat := []
  /-- The number of the next callback. -/
  next : Nat := 0
  deriving DecidableEq, Repr

namespace Performance

/-- One more note. -/
def note (p : Performance) (n : Note) : Performance :=
  { p with notes := p.notes ++ [n] }

end Performance

mutual

/-- The number of calls a call consists of. -/
def Call.weight : Call → Nat
  | .subscribe _ _ script => 1 + Call.totalWeight script
  | .resize _ => 1
  | .size => 1

/-- The number of calls in a list of calls. -/
def Call.totalWeight : List Call → Nat
  | [] => 0
  | c :: rest => Call.weight c + Call.totalWeight rest

end

/-- The state scripted callbacks work on. -/
abbrev ScriptState := Matcher ScriptedCallback × Performance

namespace Call

/-- Making a call, given how callbacks run. -/
def perform (run : Running ScriptedCallback Performance) (call : Call) (state : ScriptState) :
    Answer × ScriptState :=
  match call with
  | subscribe name query script =>
    let callback : ScriptedCallback := ⟨state.2.next, name, script⟩
    let (position, state') :=
      Matcher.subscribe run query callback
        (state.1, { state.2 with next := state.2.next + 1 })
    (.position position, state')
  | resize v =>
    let (fired, state') := Matcher.resize run v state
    (.fired fired, state')
  | size => (.size state.1.size, state)

/-- Making a call from within a callback, where its answer is noted. -/
def performNoted (run : Running ScriptedCallback Performance) (state : ScriptState)
    (call : Call) : ScriptState :=
  let (answer, (m, p)) := call.perform run state
  (m, p.note (.answered answer))

end Call

/-- Running a callback, with scripts nesting at most to the given depth. -/
def ScriptedCallback.run : Nat → Running ScriptedCallback Performance
  | 0, c, (m, p) => (m, p.note (.ran c.name))
  | depth + 1, c, (m, p) =>
    let p' := p.note (.ran c.name)
    if p'.performed.contains c.id then (m, p')
    else
      c.script.foldl (Call.performNoted (ScriptedCallback.run depth))
        (m, { p' with performed := c.id :: p'.performed })

end ResponsiveImages
