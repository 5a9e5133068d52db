import NSPluginWrapper.Npapi.Nested
import NSPluginWrapper.Theorems.Ids

/-! The ids that a call takes go with it, however deep it is nested, where the call is answered. -/

namespace NSPluginWrapper
open Lib

abbrev IdChanges := List (Table.Change UInt32 UInt64)

/-- The next id. -/
def Ids.next (ids : Ids) : UInt32 := (ids.id + 1).toUInt32

/-- The viewer is called, and waited for. -/
def PrintOutcome.called : PrintOutcome → Bool
  | .impossible => false
  | _ => true

def PrintOutcome.answered : PrintOutcome → Bool
  | .replies _ => true
  | _ => false

/-- The StreamInstance of a call that succeeds. -/
def NewStreamOutcome.created (o : NewStreamOutcome) : Option UInt64 :=
  match o.newstream with
  | none => none
  | some (ret, _) => if ret = NPError.noError then o.malloc else none

/-- What takes an id while the viewer prints. -/
def duringPrint (platformPrint : UInt64) (ids : Ids) : Ids := if platformPrint ≠ 0 then (ids.create platformPrint).1 else ids

namespace WrapperCalls

/-! ### What calls are meant to leave -/

def printChanges (printInfo : NPPrint) (o : PrintOutcome) (nested : IdChanges) : IdChanges :=
  if printInfo.supported && o.called then nested else []

def newStreamChanges (o : NewStreamOutcome) (nested : IdChanges) (next : UInt32) : IdChanges :=
  (if o.newstream.isSome then nested else []) ++ o.created.toList.map (.insert next)

/-- The changes of the table that stay: the plugin's own streams, and those that are not a matter of the two calls. -/
def changes : WrapperCalls → Ids → IdChanges
  | .done, _ => []
  | .print printInfo platformPrint o nested rest, ids =>
    printChanges printInfo o (nested.changes (duringPrint platformPrint ids)) ++
      rest.changes (invokeNPPPrint printInfo platformPrint o nested.run ids).1
  | .newStream o nested rest, ids =>
    newStreamChanges o (nested.changes ids) (nested.run ids).next ++ rest.changes (handleNPNNewStream o nested.run ids).1
  | .idCreate ptr rest, ids => .insert ids.next ptr :: rest.changes (ids.create ptr).1
  | .idRemove id rest, ids => .erase id.toUInt32 :: rest.changes (ids.remove id)

/-- A print leaves the entries as they were but for the changes of what ran within it, and none that is its own. -/
structure PrintIntact (ids ids' : Ids) (platformPrint : UInt64) (cs : IdChanges) : Prop where
  entries : ∀ key, ids'.table.lookup key = (ids.table.changes cs).lookup key
  discarded : ∀ key, ids'.table.lookup key = some platformPrint → (ids.table.changes cs).lookup key = some platformPrint

/-- A new stream has one more entry if it succeeds, in the place of none, and a reply to read in any case. -/
structure NewStreamIntact (o : NewStreamOutcome) (ids ids' : Ids) (reply : Option NewStreamReply) (nested : IdChanges)
    (next : UInt32) : Prop where
  entries : ∀ key, ids'.table.lookup key = (ids.table.changes (newStreamChanges o nested next)).lookup key
  unused : o.created.isSome → (ids.table.changes nested).lookup next = none
  defined : reply.isSome

/-- Every call, at any depth, leaves the wrapper intact. -/
def Intact : WrapperCalls → Ids → Prop
  | .done, _ => True
  | .print printInfo platformPrint o nested rest, ids =>
    let during := duringPrint platformPrint ids
    let ids' := (invokeNPPPrint printInfo platformPrint o nested.run ids).1
    (printInfo.supported && o.called → nested.Intact during) ∧
      PrintIntact ids ids' platformPrint (printChanges printInfo o (nested.changes during)) ∧ rest.Intact ids'
  | .newStream o nested rest, ids =>
    let r := handleNPNNewStream o nested.run ids
    (o.newstream.isSome → nested.Intact ids) ∧
      NewStreamIntact o ids r.1 r.2 (nested.changes ids) (nested.run ids).next ∧ rest.Intact r.1
  | .idCreate ptr rest, ids => rest.Intact (ids.create ptr).1
  | .idRemove id rest, ids => rest.Intact (ids.remove id)

/-! ### When they do -/

/-- A print that needs no id, or that is answered, whose id is a new one; or the id is such that it makes no difference,
    which is after 2³² ids. -/
def PrintSettles (ids : Ids) (printInfo : NPPrint) (platformPrint : UInt64) (o : PrintOutcome) (nested : IdChanges) : Prop :=
  platformPrint = 0 ∨ printInfo.supported = false ∨
    if o.answered ∧ ids.next ≠ 0 then (ids.table.changes nested).lookup ids.next = none
    else (o.called ∧ ids.next ∈ nested.map Table.Change.key) ∨ ids.table.lookup ids.next = some platformPrint

/-- The browser has the function, and refuses or there is memory, and the id is a new one. -/
def NewStreamSettles (o : NewStreamOutcome) (ids : Ids) (nested : IdChanges) (next : UInt32) : Prop :=
  ∃ ret stream, o.newstream = some (ret, stream) ∧
    (ret = NPError.noError → o.malloc.isSome ∧ (ids.table.changes nested).lookup next = none)

def Settles : WrapperCalls → Ids → Prop
  | .done, _ => True
  | .print printInfo platformPrint o nested rest, ids =>
    let during := duringPrint platformPrint ids
    (printInfo.supported && o.called → nested.Settles during) ∧
      PrintSettles ids printInfo platformPrint o (nested.changes during) ∧
      rest.Settles (invokeNPPPrint printInfo platformPrint o nested.run ids).1
  | .newStream o nested rest, ids =>
    (o.newstream.isSome → nested.Settles ids) ∧ NewStreamSettles o ids (nested.changes ids) (nested.run ids).next ∧
      rest.Settles (handleNPNNewStream o nested.run ids).1
  | .idCreate ptr rest, ids => rest.Settles (ids.create ptr).1
  | .idRemove id rest, ids => rest.Settles (ids.remove id)

/-! ### One call -/

variable {ids : Ids} {printInfo : NPPrint} {platformPrint : UInt64} {o : PrintOutcome} {run : Ids → Ids} {nested : IdChanges}

theorem next_eq_zero : ids.next = 0 ↔ ids.id + 1 = 0 := by
  constructor
  · intro h
    exact key_inj h
  · intro h
    rw [Ids.next, h]
    rfl

theorem lookup_duringPrint (hptr : platformPrint ≠ 0) (key : UInt32) :
    (duringPrint platformPrint ids).table.lookup key = if key = ids.next then some platformPrint else ids.table.lookup key := by
  rw [duringPrint, if_pos hptr]
  exact Ids.lookup_create _ _ _

/-- What the table of a print is at the end, by the key. -/
theorem lookup_invokeNPPPrint (hsupported : printInfo.supported = true) (hptr : platformPrint ≠ 0) (key : UInt32) :
    (invokeNPPPrint printInfo platformPrint o run ids).1.table.lookup key =
      if (o.answered ∧ ids.next ≠ 0) ∧ key = ids.next then none
      else if o.called then (run (duringPrint platformPrint ids)).table.lookup key
      else (duringPrint platformPrint ids).table.lookup key := by
  have hduring : duringPrint platformPrint ids = (ids.create platformPrint).1 := if_pos hptr
  rw [invokeNPPPrint, hsupported, hduring]
  cases o with
  | impossible => simp [hptr, PrintOutcome.answered, PrintOutcome.called]
  | invokeFails => simp [hptr, PrintOutcome.answered, PrintOutcome.called]
  | replyFails => simp [hptr, PrintOutcome.answered, PrintOutcome.called]
  | replies pluginPrinted =>
    have hid : (ids.create platformPrint).2 = ids.id + 1 := rfl
    simp only [hptr, PrintOutcome.answered, PrintOutcome.called, ne_eq, not_false_eq_true, if_true, Bool.not_true,
      Bool.false_eq_true, if_false, true_and, hid, next_eq_zero]
    by_cases hzero : ids.id + 1 = 0
    · simp [hzero]
    · simp only [hzero, not_false_eq_true, if_true, true_and]
      exact Ids.lookup_remove _ _ _

/-- The print that is not of a supported mode. -/
theorem invokeNPPPrint_unsupported (h : printInfo.supported = false) :
    (invokeNPPPrint printInfo platformPrint o run ids).1 = ids := by
  simp [invokeNPPPrint, h]

theorem invokeNPPPrint_null (h : printInfo.supported = true) :
    (invokeNPPPrint printInfo 0 o run ids).1 = if o.called then run ids else ids := by
  rw [invokeNPPPrint, h]
  cases o <;> simp [PrintOutcome.called]

theorem print_intact_iff (hrun : printInfo.supported && o.called → ∀ key,
      (run (duringPrint platformPrint ids)).table.lookup key =
        ((duringPrint platformPrint ids).table.changes nested).lookup key) :
    PrintIntact ids (invokeNPPPrint printInfo platformPrint o run ids).1 platformPrint (printChanges printInfo o nested) ↔
      PrintSettles ids printInfo platformPrint o nested := by
  have hentries : PrintIntact ids (invokeNPPPrint printInfo platformPrint o run ids).1 platformPrint
      (printChanges printInfo o nested) ↔ ∀ key, (invokeNPPPrint printInfo platformPrint o run ids).1.table.lookup key =
        (ids.table.changes (printChanges printInfo o nested)).lookup key :=
    ⟨fun h => h.entries, fun h => ⟨h, fun key hkey => (h key).symm.trans hkey⟩⟩
  rw [hentries, PrintSettles]
  by_cases hsupported : printInfo.supported = true
  swap
  · rw [Bool.not_eq_true] at hsupported
    refine iff_of_true (fun key => ?_) (.inr (.inl hsupported))
    rw [invokeNPPPrint_unsupported hsupported, printChanges, hsupported]
    rfl
  by_cases hptr : platformPrint = 0
  · refine iff_of_true (fun key => ?_) (.inl hptr)
    rw [hptr] at hrun ⊢
    rw [invokeNPPPrint_null hsupported, printChanges, hsupported, Bool.true_and]
    rw [hsupported, Bool.true_and] at hrun
    split
    · rename_i hcalled
      exact hrun hcalled key
    · rfl
  rw [hsupported, Bool.true_and] at hrun
  simp only [hptr, hsupported, Bool.true_eq_false, false_or, lookup_invokeNPPPrint hsupported hptr, printChanges, Bool.true_and]
  by_cases hcleaned : o.answered ∧ ids.next ≠ 0
  · have hcalled : o.called = true := by
      cases o <;> simp_all [PrintOutcome.answered, PrintOutcome.called]
    simp only [hcleaned, hcalled, if_true, true_and, ne_eq, not_false_eq_true, and_self]
    constructor
    · intro h
      simpa using (h ids.next).symm
    · intro h key
      split
      · rename_i hkey
        rw [hkey, h]
      · rename_i hkey
        rw [hrun hcalled key]
        apply Table.lookup_changes_congr
        rw [lookup_duringPrint hptr, if_neg hkey]
  · simp only [hcleaned, false_and, if_false]
    cases hcalled : o.called with
    | false =>
      simp only [Bool.false_eq_true, if_false, false_and, false_or, lookup_duringPrint hptr]
      constructor
      · intro h
        simpa [Table.changes] using (h ids.next).symm
      · intro h key
        split
        · rename_i hkey
          rw [hkey]
          exact h.symm
        · rfl
    | true =>
      simp only [if_true, true_and, hrun hcalled]
      constructor
      · intro h
        by_cases hmem : ids.next ∈ nested.map Table.Change.key
        · exact .inl hmem
        · have hnext := h ids.next
          rw [Table.lookup_changes_of_not_mem hmem, Table.lookup_changes_of_not_mem hmem, lookup_duringPrint hptr,
            if_pos rfl] at hnext
          exact .inr hnext.symm
      · intro h key
        by_cases hkey : key = ids.next
        · rw [hkey]
          rcases h with hmem | hlookup
          · exact Table.lookup_changes_of_mem hmem
          · apply Table.lookup_changes_congr
            rw [lookup_duringPrint hptr, if_pos rfl, hlookup]
        · apply Table.lookup_changes_congr
          rw [lookup_duringPrint hptr, if_neg hkey]

variable {ns : NewStreamOutcome} {nested rest calls : WrapperCalls}

/-- What a new stream leaves, by its outcome. -/
theorem handleNPNNewStream_cases (ns : NewStreamOutcome) (run : Ids → Ids) (ids : Ids) :
    (ns.newstream = none ∧ handleNPNNewStream ns run ids = (ids, none)) ∨
    (∃ ret stream, ns.newstream = some (ret, stream) ∧ ret ≠ NPError.noError ∧ ns.created = none ∧
      (handleNPNNewStream ns run ids).1 = run ids ∧ (handleNPNNewStream ns run ids).2.isSome) ∨
    (∃ stream, ns.newstream = some (NPError.noError, stream) ∧ ns.malloc = none ∧ ns.created = none ∧
      (handleNPNNewStream ns run ids).1 = run ids ∧ (handleNPNNewStream ns run ids).2 = none) ∨
    ∃ stream ptr, ns.newstream = some (NPError.noError, stream) ∧ ns.malloc = some ptr ∧ ns.created = some ptr ∧
      (handleNPNNewStream ns run ids).1 = ((run ids).create ptr).1 ∧ (handleNPNNewStream ns run ids).2.isSome := by
  cases hnew : ns.newstream with
  | none => exact .inl ⟨rfl, by simp [handleNPNNewStream, gNPNNewStream, hnew]⟩
  | some result =>
    obtain ⟨ret, stream⟩ := result
    right
    by_cases hret : ret = NPError.noError
    · right
      subst hret
      cases hmalloc : ns.malloc with
      | none =>
        left
        refine ⟨stream, rfl, rfl, by simp [NewStreamOutcome.created, hnew, hmalloc], ?_, ?_⟩
        · simp [handleNPNNewStream, gNPNNewStream, hnew, hmalloc]
        · simp [handleNPNNewStream, gNPNNewStream, hnew, hmalloc]
      | some ptr =>
        right
        refine ⟨stream, ptr, rfl, rfl, by simp [NewStreamOutcome.created, hnew, hmalloc], ?_, ?_⟩
        · simp [handleNPNNewStream, gNPNNewStream, hnew, hmalloc]
        · simp [handleNPNNewStream, gNPNNewStream, hnew, hmalloc]
    · left
      refine ⟨ret, stream, rfl, hret, by simp [NewStreamOutcome.created, hnew, hret], ?_, ?_⟩
      · simp [handleNPNNewStream, gNPNNewStream, hnew, hret]
      · simp [handleNPNNewStream, gNPNNewStream, hnew, hret, fakeNPStream]

theorem newStream_intact_iff {nested : IdChanges} (hrun : ns.newstream.isSome → ∀ key,
      (run ids).table.lookup key = (ids.table.changes nested).lookup key) :
    NewStreamIntact ns ids (handleNPNNewStream ns run ids).1 (handleNPNNewStream ns run ids).2 nested (run ids).next ↔
      NewStreamSettles ns ids nested (run ids).next := by
  rcases handleNPNNewStream_cases ns run ids with ⟨hnew, heq⟩ | ⟨ret, stream, hnew, hret, hcreated, hids, hreply⟩ |
    ⟨stream, hnew, hmalloc, -, -, hreply⟩ | ⟨stream, ptr, hnew, hmalloc, hcreated, hids, hreply⟩
  · refine iff_of_false (fun h => ?_) ?_
    · have hdefined := h.defined
      rw [heq] at hdefined
      cases hdefined
    · rintro ⟨ret, stream, hsome, -⟩
      rw [hnew] at hsome
      cases hsome
  · refine iff_of_true ⟨fun key => ?_, fun h => ?_, hreply⟩ ⟨ret, stream, hnew, fun h => absurd h hret⟩
    · rw [hids, newStreamChanges, hcreated, hnew]
      simpa using hrun (by rw [hnew]; rfl) key
    · rw [hcreated] at h
      cases h
  · refine iff_of_false (fun h => ?_) ?_
    · have hdefined := h.defined
      rw [hreply] at hdefined
      cases hdefined
    · rintro ⟨ret, stream', hsome, hok⟩
      rw [hnew] at hsome
      cases hsome
      have := (hok rfl).1
      rw [hmalloc] at this
      cases this
  · constructor
    · intro h
      exact ⟨_, stream, hnew, fun _ => ⟨by rw [hmalloc]; rfl, h.unused (by rw [hcreated]; rfl)⟩⟩
    · rintro ⟨ret, stream', hsome, hok⟩
      rw [hnew] at hsome
      cases hsome
      refine ⟨fun key => ?_, fun _ => (hok rfl).2, hreply⟩
      rw [hids, newStreamChanges, hcreated, hnew, Ids.lookup_create]
      have hkey := hrun (by rw [hnew]; rfl) key
      simp only [Option.isSome_some, if_true, Option.toList_some, List.map_cons, List.map_nil, Table.changes_append]
      rw [hkey]
      exact (Table.lookup_insert _ _ _ _).symm

/-! ### All calls -/

/-- What all calls leave. -/
theorem Intact.lookup (h : calls.Intact ids) (key : UInt32) :
    (calls.run ids).table.lookup key = (ids.table.changes (calls.changes ids)).lookup key := by
  induction calls generalizing ids with
  | done => rfl
  | print printInfo platformPrint o nested rest _ ih =>
    obtain ⟨-, hprint, hrest⟩ := h
    rw [run, ih hrest, changes, Table.changes_append]
    exact Table.lookup_changes_congr (hprint.entries key)
  | newStream o nested rest _ ih =>
    obtain ⟨-, hnew, hrest⟩ := h
    rw [run, ih hrest, changes, Table.changes_append]
    exact Table.lookup_changes_congr (hnew.entries key)
  | idCreate ptr rest ih => exact ih h
  | idRemove id rest ih => exact ih h

theorem intact_iff_settles (calls : WrapperCalls) (ids : Ids) : calls.Intact ids ↔ calls.Settles ids := by
  induction calls generalizing ids with
  | done => exact Iff.rfl
  | print printInfo platformPrint o nested rest ihn ih =>
    constructor
    · rintro ⟨hnested, hprint, hrest⟩
      exact ⟨fun hcalled => (ihn _).mp (hnested hcalled),
        (print_intact_iff fun hcalled => (hnested hcalled).lookup).mp hprint, (ih _).mp hrest⟩
    · rintro ⟨hnested, hprint, hrest⟩
      have hintact := fun hcalled => (ihn _).mpr (hnested hcalled)
      exact ⟨hintact, (print_intact_iff fun hcalled => (hintact hcalled).lookup).mpr hprint, (ih _).mpr hrest⟩
  | newStream o nested rest ihn ih =>
    constructor
    · rintro ⟨hnested, hnew, hrest⟩
      exact ⟨fun hsome => (ihn _).mp (hnested hsome),
        (newStream_intact_iff fun hsome => (hnested hsome).lookup).mp hnew, (ih _).mp hrest⟩
    · rintro ⟨hnested, hnew, hrest⟩
      have hintact := fun hsome => (ihn _).mpr (hnested hsome)
      exact ⟨hintact, (newStream_intact_iff fun hsome => (hintact hsome).lookup).mpr hnew, (ih _).mpr hrest⟩
  | idCreate ptr rest ih => exact ih _
  | idRemove id rest ih => exact ih _

/-- The viewer's answer to a print does not come. -/
def brokenPrint : WrapperCalls := .print (.full ⟨0, 1⟩) 0x1000 .replyFails .done .done

theorem print_not_intact : ¬brokenPrint.Intact ⟨∅, 0⟩ := by
  rintro ⟨-, hprint, -⟩
  have hentry := hprint.entries 1
  revert hentry
  decide

end WrapperCalls

end NSPluginWrapper
