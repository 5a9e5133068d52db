import Mathlib.Tactic.MkIffOfInductiveProp
import NSPluginWrapper.Plugin.SavedData
import NSPluginWrapper.Theorems.Marshal

/-! When saved data finds its way back: not through the LONG64 functions, and not where the browser's memory is not
    that of malloc(). -/

namespace NSPluginWrapper
open Lib

namespace SavedData
variable {d : NPSavedData} {setup : Setup}

/-- Positive, and with as many bytes as it says. -/
def Handed (d : NPSavedData) : Prop := 0 < d.len.toInt ∧ d.Permitted

theorem Handed.length_pos (h : Handed d) : d.buf ≠ [] := by
  intro hnil
  have hlen : d.len.toInt = d.buf.length := h.2
  have hpos := h.1
  simp [hlen, hnil] at hpos

theorem Handed.len_ne_zero (h : Handed d) : d.len ≠ 0 := by
  intro hzero
  have hpos := h.1
  simp [hzero] at hpos

/-- The length as an `uint32_t`. -/
theorem Handed.toNat (h : Handed d) : d.len.toUInt32.toNat = d.buf.length := by
  have hlen : d.len.toInt = d.buf.length := h.2
  have hle : 0 ≤ d.len := Int32.le_iff_toInt_le.mpr (le_of_lt h.1)
  rw [Int32.toNat_toUInt32_of_le hle, Int32.toNatClampNeg, hlen, Int.toNat_natCast]

/-! ### Between the processes -/

theorem sent_some (h : Handed d) : sent (some d) = some (be32 d.len.toUInt32 ++ d.buf) := by
  have hsend : rpcMessageSendBytes d.buf d.len.toInt = rpcMessageSendBytes d.buf d.buf.length := by rw [h.2]
  have hw := (int32_delivers d.len).writes.bind (f := fun _ => rpcMessageSendBytes d.buf d.buf.length)
    (rpcMessageSendBytes_writes d.buf)
  obtain ⟨t, ht, hl, htaken⟩ := hw ⟨[], [], []⟩ nofun
  obtain ⟨u, hu, -, hsent, -⟩ := rpcMessageFlush_live hl
  have hall : u.sent = be32 d.len.toUInt32 ++ d.buf := hsent.trans htaken
  have hrun : (do doSendNPSavedData (some d); rpcMessageFlush : Send Unit) ⟨[], [], []⟩ = .ok () u := by
    simp only [doSendNPSavedData, hsend]
    simp only [bind, EStateM.bind] at ht ⊢
    rw [ht]
    exact hu
  simp only [sent, hrun, hall]

theorem sent_none : sent none = some (be32 (0 : Int32).toUInt32) := by
  obtain ⟨t, ht, hl, htaken⟩ := (int32_delivers 0).writes ⟨[], [], []⟩ nofun
  obtain ⟨u, hu, -, hsent, -⟩ := rpcMessageFlush_live hl
  have hrun : (do doSendNPSavedData none; rpcMessageFlush : Send Unit) ⟨[], [], []⟩ = .ok () u := by
    simp only [doSendNPSavedData, bind, EStateM.bind, ht]
    exact hu
  have hall : u.sent = be32 (0 : Int32).toUInt32 := hsent.trans htaken
  simp only [sent, hrun, hall]

theorem leftover_live (bs : List UInt8) : ∀ e ∈ leftover bs, e.live := by
  cases bs <;> simp [leftover, RecvEvent.live]

/-- The length comes first. -/
theorem recvLen_sent (len : Int32) (rest : List UInt8) :
    ∃ m, rpcMessageRecvInt32 ⟨leftover (be32 len.toUInt32 ++ rest), []⟩ = .ok len m ∧ m.Live ∧ m.held = rest :=
  (int32_delivers len).reads ⟨leftover (be32 len.toUInt32 ++ rest), []⟩ rest
    ⟨leftover_live (be32 len.toUInt32 ++ rest), fun _ h => by cases h⟩ (leftover_bytes (be32 len.toUInt32 ++ rest))

theorem recvSaveArea_none (allocator : Allocator) (pointers32 area buf : Bool) (heap : Heap) :
    recvSaveArea allocator pointers32 area buf (be32 (0 : Int32).toUInt32) heap = (some none, heap) := by
  obtain ⟨m, hm, -⟩ := recvLen_sent 0 []
  rw [List.append_nil] at hm
  simp only [recvSaveArea, hm, if_true]

/-- What do_recv_NPSavedData leaves in memory: two blocks, or as many as it got. -/
theorem recvSaveArea_sent (h : Handed d) (allocator : Allocator) (pointers32 area buf : Bool) (heap : Heap) :
    recvSaveArea allocator pointers32 area buf (be32 d.len.toUInt32 ++ d.buf) heap =
      if area then
        if buf then
          (some (some ⟨heap.blocks.length, heap.blocks.length + 1, d⟩),
            { heap with blocks := heap.blocks ++
              [⟨some allocator, sizeofNPSavedData pointers32, []⟩, ⟨some allocator, d.buf.length, []⟩] })
        else (none, { heap with blocks := heap.blocks ++ [⟨some allocator, sizeofNPSavedData pointers32, []⟩] })
      else (none, heap) := by
  obtain ⟨m, hm, hl, hheld⟩ := recvLen_sent d.len d.buf
  have hbytes : rpcMessageRecvBytes d.len.toInt = rpcMessageRecvBytes d.buf.length := by rw [h.2]
  obtain ⟨m', hm', -, -⟩ := rpcMessageRecvBytes_reads h.length_pos m [] hl (by rw [List.append_nil]; exact hheld)
  simp only [recvSaveArea, hm, h.len_ne_zero, if_false, hbytes, hm']
  cases area <;> cases buf <;> simp [Heap.alloc, Heap.object, Heap.write, h.toNat]

/-! ### The way -/

/-- The data came to the later instance, every structure fit, and each block was freed once with the allocator it came
    from; an object of the stack is none. -/
@[mk_iff]
structure Outcome.Kept (o : Outcome) (d : NPSavedData) : Prop where
  given : o.given = some (some d)
  fits : o.browser.overrun = false ∧ o.viewer.overrun = false
  freed : ∀ b ∈ o.browser.blocks ++ o.viewer.blocks, b.frees = b.source.toList

/-- The blocks of the viewer, once its NPP_Destroy has returned. -/
def returned (setup : Setup) (d : NPSavedData) : Heap where
  blocks := [⟨some .npw, sizeofNPSavedData setup.viewer32, [.npw]⟩, ⟨some .npw, d.buf.length, [.npw]⟩]
  overrun := false

theorem handleNPPDestroy_handed (h : Handed d) :
    handleNPPDestroy (some (handed setup.viewer32 d).1) (handed setup.viewer32 d).2 =
      (some (be32 d.len.toUInt32 ++ d.buf), returned setup d) := by
  simp [handleNPPDestroy, handed, Heap.empty, Heap.alloc, Heap.object, Heap.write, Heap.free, sent_some h, returned]

/-- The viewer gives up what it was sent. -/
theorem arrive_kept (h : Handed d) (browser : Heap) :
    (Outcome.arrive setup (some (be32 d.len.toUInt32 ++ d.buf)) browser (returned setup d)).Kept d ↔
      setup.viewerArea = true ∧ setup.viewerBuf = true ∧ browser.overrun = false ∧
        ∀ b ∈ browser.blocks, b.frees = b.source.toList := by
  simp only [Outcome.arrive, handleNPPNew, recvSaveArea_sent h, Outcome.kept_iff]
  cases setup.viewerArea with
  | false => simp
  | true =>
    cases setup.viewerBuf with
    | false => simp
    | true => simp [Heap.free, returned, or_imp, forall_and]

/-- Nothing was sent of it. -/
theorem arrive_lost (browser viewer : Heap) : ¬(Outcome.arrive setup (sent none) browser viewer).Kept d := by
  intro h
  have hgiven := h.given
  simp [Outcome.arrive, sent_none, handleNPPNew, recvSaveArea_none] at hgiven

/-- What the wrapper got, it gives up with free(). -/
theorem carry_direct (h : Handed d) (hlong : setup.long64 = false) : (carry setup d).Kept d ↔
    setup.memalloc = .libc ∧ (setup.browserArea = true ∧ setup.browserBuf = true) ∧
      setup.viewerArea = true ∧ setup.viewerBuf = true := by
  simp only [carry, handleNPPDestroy_handed h, hlong, gNPPDestroy, recvSaveArea_sent h]
  cases harea : setup.browserArea with
  | false => simpa [gNPPNew] using arrive_lost _ _
  | true =>
    cases hbuf : setup.browserBuf with
    | false => simpa [gNPPNew] using arrive_lost _ _
    | true =>
      simp [gNPPNew, Heap.empty, Heap.free, sent_some h, arrive_kept h]
      constructor
      · rintro ⟨hviewer, hviewerBuf, hmem⟩
        exact ⟨hmem.symm, hviewer, hviewerBuf⟩
      · rintro ⟨hmem, hviewer, hviewerBuf⟩
        exact ⟨hviewer, hviewerBuf, hmem.symm⟩

/-- The LONG64 structure is only made with the thunks, after a good result, and where there is memory. -/
theorem gLong64NPPDestroy_save (h : Handed d) (hnot : ¬(0 < setup.thunks ∧ (setup.browserArea = true ∧
      setup.browserBuf = true) ∧ setup.ret = NPError.noError ∧ setup.browserArea64 = true)) (heap : Heap) :
    (gLong64NPPDestroy setup (be32 d.len.toUInt32 ++ d.buf) heap).2.1 = none := by
  by_cases hthunks : 0 < setup.thunks
  · cases harea : setup.browserArea with
    | false => simp [gLong64NPPDestroy, gNPPDestroy, recvSaveArea_sent h, hthunks, harea]
    | true =>
      cases hbuf : setup.browserBuf with
      | false => simp [gLong64NPPDestroy, gNPPDestroy, recvSaveArea_sent h, hthunks, harea, hbuf]
      | true =>
        by_cases hret : setup.ret = NPError.noError
        · cases harea64 : setup.browserArea64 with
          | false => simp [gLong64NPPDestroy, gNPPDestroy, recvSaveArea_sent h, hthunks, harea, hbuf, hret, harea64]
          | true => exact absurd ⟨hthunks, ⟨harea, hbuf⟩, hret, harea64⟩ hnot
        · simp [gLong64NPPDestroy, gNPPDestroy, recvSaveArea_sent h, hthunks, harea, hbuf, hret]
  · simp [gLong64NPPDestroy, hthunks]

/-- Without the thunks the data stays in the wrapper; with them the next instance's NPP_New frees an object of the
    stack, if it comes so far. -/
theorem carry_long64 (h : Handed d) (hlong : setup.long64 = true) : ¬(carry setup d).Kept d := by
  simp only [carry, handleNPPDestroy_handed h, hlong, if_true]
  by_cases hgot : 0 < setup.thunks ∧ (setup.browserArea = true ∧ setup.browserBuf = true) ∧
      setup.ret = NPError.noError ∧ setup.browserArea64 = true
  · obtain ⟨hthunks, ⟨harea, hbuf⟩, hret, harea64⟩ := hgot
    simp [gLong64NPPDestroy, gNPPDestroy, recvSaveArea_sent h, hthunks, harea, hbuf, hret, harea64, gLong64NPPNew,
      gNPPNew, Heap.empty, Heap.alloc, Heap.object, Heap.free, Heap.write, Int32.toInt32_toInt64, sent_some h,
      arrive_kept h]
  · have hsave := gLong64NPPDestroy_save h hgot .empty
    generalize gLong64NPPDestroy setup (be32 d.len.toUInt32 ++ d.buf) .empty = r at hsave ⊢
    obtain ⟨ret, save, browser⟩ := r
    cases hsave
    exact arrive_lost browser _

end SavedData

open SavedData in
/-- Saved data finds its way back exactly where the browser has the plain functions, its NPN_MemAlloc() is malloc(),
    and no allocation fails. -/
theorem saved_kept_iff (setup : Setup) (d : NPSavedData) (h : Handed d) : (carry setup d).Kept d ↔
    setup.long64 = false ∧ setup.memalloc = .libc ∧ (setup.browserArea = true ∧ setup.browserBuf = true) ∧
      setup.viewerArea = true ∧ setup.viewerBuf = true := by
  cases hlong : setup.long64 with
  | false => simp [carry_direct h hlong]
  | true => simp [carry_long64 h hlong]

namespace SavedData

/-- A browser whose NPN_MemAlloc() is malloc(), and its plain functions. -/
def Setup.plain : Setup where
  memalloc := .libc
  long64 := false
  thunks := -1
  pointers32 := false
  viewer32 := true
  ret := NPError.noError
  browserArea := true
  browserBuf := true
  browserArea64 := true
  viewerArea := true
  viewerBuf := true

theorem handed_three : Handed ⟨3, [1, 2, 3]⟩ := ⟨by decide, by rw [NPSavedData.Permitted]; decide⟩

theorem saved_kept_once : (carry .plain ⟨3, [1, 2, 3]⟩).Kept ⟨3, [1, 2, 3]⟩ :=
  (saved_kept_iff .plain ⟨3, [1, 2, 3]⟩ handed_three).mpr ⟨rfl, rfl, ⟨rfl, rfl⟩, rfl, rfl⟩

/-- A browser with an NPN_MemAlloc() of its own, and one that needs the LONG64 structures. -/
theorem saved_misfreed : ¬(carry { Setup.plain with memalloc := .browser } ⟨3, [1, 2, 3]⟩).Kept ⟨3, [1, 2, 3]⟩ ∧
    ¬(carry { Setup.plain with long64 := true, thunks := 1 } ⟨3, [1, 2, 3]⟩).Kept ⟨3, [1, 2, 3]⟩ := by
  constructor
  · intro h
    have hmem := ((carry_direct handed_three rfl).mp h).1
    cases hmem
  · exact carry_long64 handed_three rfl

end SavedData
end NSPluginWrapper
