import Mathlib.Logic.Function.Basic
import NSPluginWrapper.Lib.Machine
import NSPluginWrapper.Lib.Table

/-! npw-viewer.c and npw-common.c: the plugin instances of the viewer, what refers to one, and the objects that are
    created for it. Records are told apart by numbers, which no later record has again; all of this is on the main
    thread, but for NPN_PluginThreadAsyncCall, which only adds to the main loop. -/

namespace NSPluginWrapper
open Lib

namespace Instances

/-- What leaves the process in a state nobody knows: a record is used after it was freed, a GHashTable changes
    while it is gone over, or an assertion fails. -/
inductive Fault where
  | freedInstance
  | freedTimer
  | freedObject
  | tableModified
  | assertion
  deriving Repr, DecidableEq

/-- Timer, by the `number` of its g_new0(). There is a source 0 nowhere. -/
structure Timer where
  number : Nat
  repeats : Bool
  sourceId : Nat
  deriving Repr, DecidableEq

/-- PluginInstance; `failed`, for the theorems, says that NPP_New returned an error for it. -/
structure PluginInstance where
  instanceId : UInt32
  refcount : Nat
  isValid : Bool
  nextTimerId : UInt32
  timers : Option (Table UInt32 Timer)
  npobjects : Option (List Nat)
  isFreed : Bool
  failed : Bool

inductive Callback where
  | asyncCall
  | timer (timerId : UInt32)
  deriving Repr, DecidableEq

/-- A source of the main loop with its AsyncCall or TimerData. -/
structure Source where
  id : Nat
  plugin : Nat
  callback : Callback
  deriving Repr, DecidableEq

/-- NPObject. For the theorems, the instance it was `createdFor`, whether it was alive when the plugin's NPP_Destroy
    had returned, and how often it was invalidated, and unregistered, by g_NPP_Destroy. -/
structure Object where
  isProxy : Bool
  referenceCount : Nat
  isFreed : Bool
  createdFor : Option Nat
  remained : Bool
  invalidated : Nat
  unregistered : Nat
  deriving Repr, DecidableEq

/-- A call out of the viewer's code that has not returned, and what the code goes on with. -/
inductive Frame where
  /-- `plugin_funcs.newp` in g_NPP_New. -/
  | newp (plugin : Nat)
  /-- `plugin_funcs.destroy` in g_NPP_Destroy. -/
  | destroy (plugin : Nat)
  /-- `invalidate` of an object, with the objects that g_hash_table_foreach() has not come to. -/
  | invalidate (plugin npobj : Nat) (rest : List Nat)
  /-- An NPN_* function that waits for its reply. -/
  | npn (plugin : Nat)
  /-- `plugin_funcs.print` in handle_NPP_Print. -/
  | print (plugin : Nat)
  /-- invoke_NPN_PrintData in handle_NPP_Print, with the number of the pieces that follow. -/
  | printData (plugin left : Nat)
  /-- `func` in async_call_run. -/
  | asyncCall (source : Source)
  /-- `func` in timer_data_run. -/
  | timer (source : Source) (timerId : UInt32) (number : Nat)
  /-- `allocate` in g_NPN_CreateObject. -/
  | allocate (plugin : Option Nat) (isProxy : Bool)
  deriving Repr, DecidableEq

end Instances

open Instances in
/-- `ids` is `g_ids` as far as it has instances, `owners` is `g_npobj_owners`, and `removed` has the sources that
    g_source_remove() did not find waiting in the main loop. -/
structure Instances where
  ids : Table UInt32 Nat
  plugins : Nat → Option PluginInstance
  sources : List Source
  removed : List Nat
  lastSource : Nat
  lastTimer : Nat
  objects : Nat → Option Object
  owners : Table Nat (Option Nat)
  stack : List Frame

namespace Instances

abbrev Result := Except Fault Instances

def started : Instances where
  ids := ∅
  plugins := fun _ => none
  sources := []
  removed := []
  lastSource := 0
  lastTimer := 0
  objects := fun _ => none
  owners := ∅
  stack := []

def access (s : Instances) (i : Nat) : Except Fault PluginInstance :=
  match s.plugins i with
  | some p => if p.isFreed then .error .freedInstance else .ok p
  | none => .error .freedInstance

def put (s : Instances) (i : Nat) (p : PluginInstance) : Instances :=
  { s with plugins := Function.update s.plugins i (some p) }

def push (s : Instances) (frame : Frame) : Instances := { s with stack := frame :: s.stack }

/-! ### npw-common.c -/

/-- npw_plugin_instance_ref(). -/
def ref (s : Instances) (i : Nat) : Result := (s.access i).map fun p => s.put i { p with refcount := p.refcount + 1 }

/-- The sources that the timers of an instance know of. -/
def PluginInstance.timerSources (p : PluginInstance) : List Nat :=
  (p.timers.getD ∅).entries.map (·.2.sourceId)

/-- plugin_instance_finalize() and plugin_instance_deallocate(). A timer whose source is still there takes it
    along. -/
def finalize (s : Instances) (i : Nat) (p : PluginInstance) : Instances :=
  { s with sources := s.sources.filter fun source => ¬ (source.plugin = i ∧ source.id ∈ p.timerSources) }.put i
    { p with refcount := 0, timers := none, npobjects := none, isFreed := true }

/-- npw_plugin_instance_unref(). -/
def unref (s : Instances) (i : Nat) : Result :=
  (s.access i).map fun p =>
    if p.refcount = 1 then s.finalize i p else s.put i { p with refcount := p.refcount - 1 }

/-- npw_plugin_instance_invalidate(), with plugin_instance_invalidate(). -/
def invalidate (s : Instances) (i : Nat) : Result :=
  (s.access i).map fun p =>
    { s with ids := if p.instanceId = 0 then s.ids else s.ids.erase p.instanceId }.put i
      { p with instanceId := 0, isValid := false }

/-! ### Calls and timers in the main loop -/

def npnPluginThreadAsyncCall (s : Instances) (i : Nat) : Result :=
  (s.ref i).map fun s =>
    { s with sources := ⟨s.lastSource + 1, i, .asyncCall⟩ :: s.sources, lastSource := s.lastSource + 1 }

/-- g_source_remove(). The source of a callback that runs goes when the callback has returned. -/
def sourceRemove (s : Instances) (id : Nat) : Result :=
  match s.sources.find? (·.id = id) with
  | some source => { s with sources := s.sources.erase source }.unref source.plugin
  | none => .ok { s with removed := id :: s.removed }

def timerFree (s : Instances) (timer : Timer) : Result :=
  if timer.sourceId = 0 then .ok s else s.sourceRemove timer.sourceId

def timer? (s : Instances) (i : Nat) (timerId : UInt32) : Option Timer :=
  (s.plugins i).bind fun p => p.timers.bind fun timers => timers.lookup timerId

/-- The table of the timers frees the timer that a new one takes the place of. There is none before NPP_New has
    returned. -/
def npnScheduleTimer (s : Instances) (i : Nat) (repeats : Bool) : Result :=
  (s.access i).bind fun p =>
    let timerId := p.nextTimerId
    let old := s.timer? i timerId
    let timer : Timer := ⟨s.lastTimer + 1, repeats, s.lastSource + 1⟩
    let s := { s with lastSource := s.lastSource + 1, lastTimer := s.lastTimer + 1 }.put i
      { p with nextTimerId := timerId + 1, timers := p.timers.map (AList.insert timerId timer) }
    (old.elim (.ok s) s.timerFree).bind fun s =>
      (s.ref i).map fun s => { s with sources := ⟨timer.sourceId, i, .timer timerId⟩ :: s.sources }

/-- g_hash_table_remove() goes on with the table when timer_free() has returned. -/
def npnUnscheduleTimer (s : Instances) (i : Nat) (timerId : UInt32) : Result :=
  (s.access i).bind fun p =>
    match s.timer? i timerId with
    | none => .ok s
    | some timer =>
      ((s.put i { p with timers := p.timers.map (AList.erase timerId) }).timerFree timer).bind fun s =>
        (s.access i).map fun _ => s

/-- async_call_run() and timer_data_run(), as far as `func`. A source whose function returns FALSE is gone, and
    async_call_free() or timer_data_free() follows. -/
def dispatch (s : Instances) (source : Source) : Result :=
  let s := { s with sources := s.sources.erase source }
  (s.access source.plugin).bind fun p =>
    match source.callback with
    | .asyncCall => if p.isValid then .ok (s.push (.asyncCall source)) else s.unref source.plugin
    | .timer timerId =>
      match if p.isValid then s.timer? source.plugin timerId else none with
      | some timer => .ok (s.push (.timer source timerId timer.number))
      | none => s.unref source.plugin

/-- The rest of timer_data_run(). -/
def timerDataRan (s : Instances) (source : Source) (timerId : UInt32) (number : Nat) : Result :=
  match s.timer? source.plugin timerId with
  | none => .error .freedTimer
  | some timer =>
    if timer.number ≠ number then
      .error .freedTimer
    else if timer.repeats then
      if source.id ∈ s.removed then s.unref source.plugin else .ok { s with sources := source :: s.sources }
    else
      (s.access source.plugin).bind fun p =>
        (s.put source.plugin
          { p with timers := p.timers.map (AList.insert timerId { timer with sourceId := 0 }) }).unref source.plugin

/-! ### Objects -/

/-- g_hash_table_foreach() goes over the objects of the instance. -/
def isWalked (s : Instances) (i : Nat) : Bool :=
  s.stack.any fun
    | .invalidate plugin _ _ => plugin = i
    | _ => false

def npobjectUnregister (s : Instances) (o : Nat) : Instances := { s with owners := s.owners.erase o }

def putObject (s : Instances) (o : Nat) (x : Object) : Instances :=
  { s with objects := Function.update s.objects o (some x) }

/-- `plugin->npobjects` changes; it is NULL before NPP_New has returned. -/
def onNPObjects (s : Instances) (i : Nat) (f : List Nat → List Nat) : Result :=
  (s.access i).bind fun p =>
    match p.npobjects with
    | none => .ok s
    | some npobjects =>
      if f npobjects = npobjects then .ok s
      else if s.isWalked i then .error .tableModified
      else .ok (s.put i { p with npobjects := some (f npobjects) })

/-- The rest of g_NPN_CreateObject, with the object that was allocated. -/
def npnCreateObject (s : Instances) (plugin : Option Nat) (isProxy : Bool) : Option Nat → Result
  | none => .ok s
  | some o =>
    let s := s.putObject o ⟨isProxy, 1, false, plugin, false, 0, 0⟩
    if isProxy then
      .ok s
    else if (s.owners.lookup o).isSome then
      .error .assertion
    else
      let s := { s with owners := s.owners.insert o plugin }
      plugin.elim (.ok s) fun i => s.onNPObjects i fun npobjects => o :: npobjects

def npnRetainObject (s : Instances) (o : Nat) : Result :=
  match s.objects o with
  | none => .error .freedObject
  | some x => if x.isFreed then .error .freedObject else .ok (s.putObject o { x with referenceCount := x.referenceCount + 1 })

def npnReleaseObject (s : Instances) (o : Nat) : Result :=
  match s.objects o with
  | none => .error .freedObject
  | some x =>
    if x.isFreed then
      .error .freedObject
    else
      let s := s.putObject o { x with referenceCount := x.referenceCount - 1 }
      if x.referenceCount ≠ 1 then
        .ok s
      else
        ((s.owners.lookup o).join.elim (.ok s) fun i => s.onNPObjects i fun npobjects => npobjects.erase o).map fun s =>
          (s.npobjectUnregister o).putObject o { x with referenceCount := 0, isFreed := true }

/-! ### NPP_New and NPP_Destroy -/

/-- g_NPP_New, as far as `newp`. `npp` says that there is memory for the NPP. -/
def nppNew (s : Instances) (i : Nat) (instanceId : UInt32) (npp : Bool) : Instances :=
  let s := { s with ids := s.ids.insert instanceId i }.put i ⟨instanceId, 1, true, 0, none, none, false, !npp⟩
  if npp then s.push (.newp i) else s

/-- The rest of g_NPP_New. `xtSource` says that none was needed or xt_source_create() made one. -/
def newpReturned (s : Instances) (i : Nat) (ok xtSource : Bool) : Result :=
  (s.access i).map fun p =>
    if xtSource then
      s.put i { p with nextTimerId := 1, timers := some ∅, npobjects := some [], failed := !ok }
    else
      s.put i { p with failed := true }

/-- The end of g_NPP_Destroy. -/
def nppDestroyed (s : Instances) (i : Nat) : Result := (s.invalidate i).bind fun s => s.unref i

/-- invalidate_npobject for one object after the other, as far as the next call of `invalidate`. -/
def invalidateNPObjects (s : Instances) (i : Nat) : List Nat → Result
  | [] => s.nppDestroyed i
  | o :: rest =>
    match s.objects o with
    | none => .error .freedObject
    | some x =>
      if x.isFreed then .error .freedObject
      else .ok ((s.putObject o { x with invalidated := x.invalidated + 1 }).push (.invalidate i o rest))

/-- Which objects of the instance are alive. -/
def markRemaining (s : Instances) (i : Nat) : Instances :=
  { s with objects := fun o => (s.objects o).map fun x =>
      if x.createdFor = some i ∧ x.isProxy = false ∧ x.isFreed = false then { x with remained := true } else x }

/-- g_NPP_Destroy behind the plugin's, with the order in which the table gives its keys. -/
def destroyReturned (s : Instances) (i : Nat) (order : List Nat) : Result :=
  (s.access i).bind fun _ => (s.markRemaining i).invalidateNPObjects i order

/-- The rest of invalidate_npobject, and the objects that follow. -/
def invalidateReturned (s : Instances) (i o : Nat) (rest : List Nat) : Result :=
  let found := (s.owners.lookup o).isSome
  let counted := (s.objects o).map fun x => { x with unregistered := x.unregistered + found.toNat }
  let s := { s with objects := Function.update s.objects o counted }.npobjectUnregister o
  (s.access i).bind fun _ => s.invalidateNPObjects i rest

/-! ### Runs -/

inductive Event where
  | nppNew (i : Nat) (instanceId : UInt32) (npp : Bool)
  | newpReturns (ok xtSource : Bool)
  | nppDestroy (instanceId : UInt32)
  | destroyReturns (order : List Nat)
  | invalidateReturns
  | npnCall (i : Nat)
  | npnReturns
  | nppPrint (instanceId : UInt32)
  | printReturns (pieces : Nat)
  | printDataReturns
  | npnPluginThreadAsyncCall (i : Nat)
  | npnScheduleTimer (i : Nat) (repeats : Bool)
  | npnUnscheduleTimer (i : Nat) (timerId : UInt32)
  | dispatch (source : Source)
  | callbackReturns
  | npnCreateObject (plugin : Option Nat) (isProxy : Bool)
  | allocateReturns (npobj : Option Nat)
  | npnRetainObject (o : Nat)
  | npnReleaseObject (o : Nat)
  deriving Repr, DecidableEq

/-- A call with an id that is nobody's does nothing. -/
def receive (s : Instances) (instanceId : UInt32) (frame : Nat → Frame) : Result :=
  (s.ids.lookup instanceId).elim (.ok s) fun i => (s.access i).map fun _ => s.push (frame i)

/-- invoke_NPN_PrintData for the pieces that are left. -/
def printData (s : Instances) (i : Nat) : Nat → Result
  | 0 => .ok s
  | left + 1 => (s.ref i).map fun s => s.push (.printData i left)

/-- The call that has not returned returns. None where another kind of call is waited for. -/
def returns (s : Instances) : Event → Option Result
  | .newpReturns ok xtSource =>
    match s.stack with
    | .newp i :: stack => some ({ s with stack }.newpReturned i ok xtSource)
    | _ => none
  | .destroyReturns order =>
    match s.stack with
    | .destroy i :: stack => some ({ s with stack }.destroyReturned i order)
    | _ => none
  | .invalidateReturns =>
    match s.stack with
    | .invalidate i o rest :: stack => some ({ s with stack }.invalidateReturned i o rest)
    | _ => none
  | .npnReturns =>
    match s.stack with
    | .npn i :: stack => some ({ s with stack }.unref i)
    | _ => none
  | .printReturns pieces =>
    match s.stack with
    | .print i :: stack => some ({ s with stack }.printData i pieces)
    | _ => none
  | .printDataReturns =>
    match s.stack with
    | .printData i left :: stack => some (({ s with stack }.unref i).bind fun s => s.printData i left)
    | _ => none
  | .callbackReturns =>
    match s.stack with
    | .asyncCall source :: stack => some ({ s with stack }.unref source.plugin)
    | .timer source timerId number :: stack => some ({ s with stack }.timerDataRan source timerId number)
    | _ => none
  | .allocateReturns npobj =>
    match s.stack with
    | .allocate plugin isProxy :: stack => some ({ s with stack }.npnCreateObject plugin isProxy npobj)
    | _ => none
  | _ => none

def exec (s : Instances) : Event → Option Result
  | .nppNew i instanceId npp => some (.ok (s.nppNew i instanceId npp))
  | .nppDestroy instanceId => some (s.receive instanceId .destroy)
  | .npnCall i => some ((s.ref i).map fun s => s.push (.npn i))
  | .nppPrint instanceId => some (s.receive instanceId .print)
  | .npnPluginThreadAsyncCall i => some (s.npnPluginThreadAsyncCall i)
  | .npnScheduleTimer i repeats => some (s.npnScheduleTimer i repeats)
  | .npnUnscheduleTimer i timerId => some (s.npnUnscheduleTimer i timerId)
  | .dispatch source => some (s.dispatch source)
  | .npnCreateObject plugin isProxy => some (.ok (s.push (.allocate plugin isProxy)))
  | .npnRetainObject o => some (s.npnRetainObject o)
  | .npnReleaseObject o => some (s.npnReleaseObject o)
  | e => s.returns e

/-- The record is there. -/
def Live (s : Instances) (i : Nat) : Prop := ∃ p, s.plugins i = some p ∧ p.isFreed = false

/-- What the two processes around the viewer's code keep to: the wrapper's ids are of one instance each, the browser
    destroys no instance that it did not get, and the plugin has references to the objects it passes, and passes an
    NPP that was not freed. -/
def Allowed (s : Instances) : Event → Prop
  | .nppNew i instanceId _ => s.plugins i = none ∧ instanceId ≠ 0 ∧ s.ids.lookup instanceId = none
  | .nppDestroy instanceId => ∀ i p, s.ids.lookup instanceId = some i → s.plugins i = some p → p.failed = false
  | .destroyReturns order => ∀ i p stack, s.stack = .destroy i :: stack → s.plugins i = some p →
      order.Perm (p.npobjects.getD [])
  | .npnCall i | .npnPluginThreadAsyncCall i | .npnScheduleTimer i _ | .npnUnscheduleTimer i _ => s.Live i
  | .dispatch source => source ∈ s.sources
  | .npnCreateObject plugin _ => ∀ i, plugin = some i → s.Live i
  | .allocateReturns npobj => ∀ o, npobj = some o → s.objects o = none
  | .npnRetainObject o | .npnReleaseObject o => ∃ x, s.objects o = some x ∧ x.isFreed = false
  | _ => True

end Instances

/-- Every run of the viewer as far as instances and their objects go. -/
def viewerInstances : Machine (Except Instances.Fault Instances) Instances.Event where
  init s := s = .ok .started
  step s e t := ∃ v, s = .ok v ∧ v.Allowed e ∧ v.exec e = some t

end NSPluginWrapper
