import NSPluginWrapper.Npapi.Print
import NSPluginWrapper.Theorems.Dispatch
import NSPluginWrapper.Theorems.Marshal

/-! A print file comes across in pieces unless the last piece is empty: the viewer sends one then all the
    same, and an empty piece is never accepted. -/

namespace NSPluginWrapper
open Lib

/-! ### The arguments of a piece -/

def pieceArgs (id : UInt32) (printData : NPPrintData) : List (Arg NPPrintData) :=
  [.uint32 id, .user RpcType.npPrintData printData]

theorem printDataTypes_self : printDataTypes RpcType.npPrintData =
    some ⟨4100, npPrintData_pos, npPrintData_lt, doSendNPPrintData, doRecvNPPrintData⟩ := rfl

/-- A piece that holds something comes across. -/
theorem pieceArgs_cross (id : UInt32) {printData : NPPrintData} (h : printData.data ≠ []) :
    ArgsCross printDataTypes (pieceArgs id printData) := by
  have hcarries : printDataTypes.Carries RpcType.npPrintData printData :=
    ⟨_, printDataTypes_self, printData_exchanged h⟩
  refine rpcMessageArgs_exchanged ?_ ?_ ?_
  · simp [pieceArgs, Arg.Short]
  · simp [pieceArgs, Arg.Carried, hcarries]
  · simp [pieceArgs, Arg.Addressable]

/-- A recv() of no bytes ends the stream, or waits for one that never comes, or is left after an
    interruption. -/
theorem rpcMessageRecvBytes_none :
    Tries InMessage.source (rpcMessageRecvBytes 0) [] [] Failure.Negative := fun m rest hm hheld => by
  obtain ⟨script, memory⟩ := m
  match script, hm, hheld with
  | [], _, _ => exact Or.inr ⟨_, _, rfl, Failure.negative (by decide)⟩
  | .data b bs :: es, _, _ => exact Or.inr ⟨_, _, rfl, Failure.negative (by decide)⟩
  | .again .ready :: es, hm, hheld => exact Or.inl ⟨_, rfl, ⟨fun e h => hm.1 e (List.mem_cons_of_mem _ h), hm.2⟩, hheld⟩
  | .again .interrupted :: es, hm, hheld =>
    exact Or.inl ⟨_, rfl, ⟨fun e h => hm.1 e (List.mem_cons_of_mem _ h), hm.2⟩, hheld⟩
  | .interrupted :: es, hm, hheld => exact Or.inl ⟨_, rfl, ⟨fun e h => hm.1 e (List.mem_cons_of_mem _ h), hm.2⟩, hheld⟩
  | .closed :: es, hm, _ => exact (hm.1 _ (List.mem_cons_self ..)).elim
  | .again .timedOut :: es, hm, _ => exact (hm.1 _ (List.mem_cons_self ..)).elim
  | .again .failed :: es, hm, _ => exact (hm.1 _ (List.mem_cons_self ..)).elim
  | .failed :: es, hm, _ => exact (hm.1 _ (List.mem_cons_self ..)).elim

theorem doRecvNPPrintData_none {printData : NPPrintData} (h : printData.data = []) :
    Tries InMessage.source doRecvNPPrintData (be32 (UInt32.ofNat printData.data.length)) printData
      Failure.Negative := by
  have hsize : cInt (UInt32.ofNat printData.data.length).toNat = 0 := by
    rw [h]
    exact cInt_of_lt (by decide)
  refine (uint32_delivers _).reads.tries.bind_pure ?_
  rw [hsize]
  refine rpcMessageRecvBytes_none.bind_pure (Reads.tries ?_)
  rw [dif_pos (show [].length ≤ 4096 from Nat.zero_le _)]
  obtain ⟨data, fits⟩ := printData
  cases h
  exact .pure _

theorem pieceArg_empty {printData : NPPrintData} (h : printData.data = []) :
    ∃ bs, Writes OutMessage.sink (sendArg printDataTypes (.user RpcType.npPrintData printData)) bs () ∧
      Tries InMessage.source (recvArg printDataTypes (.user RpcType.npPrintData)) bs
        (.user RpcType.npPrintData printData) Failure.Negative := by
  refine ⟨be32 RpcType.npPrintData.id.toUInt32 ++ be32 (UInt32.ofNat printData.data.length), ?_, ?_⟩
  · refine (int32_delivers _).writes.bind (Writes.bind_pure (uint32_delivers _).writes ?_)
    have hbytes := rpcMessageSendBytes_writes printData.data
    rw [h] at hbytes ⊢
    exact hbytes
  · have hcode : ¬RpcType.npPrintData.id ≠ (ArgType.user RpcType.npPrintData).code := not_not_intro rfl
    refine (int32_delivers _).reads.tries.bind ?_
    rw [if_neg hcode]
    exact (doRecvNPPrintData_none h).map _

/-- An empty piece goes out like any other, and its arguments are read or refused. -/
theorem pieceArgs_empty (id : UInt32) {printData : NPPrintData} (h : printData.data = []) :
    ∃ bs, Writes OutMessage.sink (rpcMessageSendArgs printDataTypes (pieceArgs id printData)) bs () ∧
      Tries InMessage.source (rpcMessageRecvArgs printDataTypes [.uint32, .user RpcType.npPrintData]) bs
        (pieceArgs id printData) Failure.Negative := by
  obtain ⟨us, huw, hur⟩ : Exchanged (sendArg printDataTypes (.uint32 id)) (recvArg printDataTypes .uint32)
      (.uint32 id) := arg_exchanged trivial trivial trivial
  obtain ⟨as, haw, har⟩ := marker_exchanged RpcMessage.args
  obtain ⟨fs, hfw, hfr⟩ := marker_exchanged RpcMessage.finish
  obtain ⟨ds, hdw, hdr⟩ := pieceArg_empty h
  have hlast : Tries InMessage.source (recvEach printDataTypes [.user RpcType.npPrintData]) ds
      [.user RpcType.npPrintData printData] Failure.Negative := hdr.bind_pure (Reads.pure _).tries
  have heach : Tries InMessage.source (recvEach printDataTypes [.uint32, .user RpcType.npPrintData]) (us ++ ds)
      (pieceArgs id printData) Failure.Negative := hur.tries.bind (hlast.bind_pure (Reads.pure _).tries)
  refine ⟨as ++ ((us ++ ds) ++ fs), ?_, ?_⟩
  · exact haw.bind ((huw.bind (hdw.bind_pure (.pure ()))).bind hfw)
  · exact har.tries.bind (heach.bind (hfr.map fun _ => pieceArgs id printData).tries)

/-! ### One piece -/

/-- Both scripts go on, and what is sent arrives. -/
structure Carriage.Live (k : Carriage) : Prop where
  callOut : ∀ e ∈ k.callOut, e.live
  callIn : ∀ bs, (k.callIn bs).Live ∧ (k.callIn bs).held = bs
  replyOut : ∀ e ∈ k.replyOut, e.live
  replyIn : ∀ bs, (k.replyIn bs).Live ∧ (k.replyIn bs).held = bs

/-- The viewer may call, the wrapper's connection is up, and the browser's file holds `fp`. -/
structure Printing.Ready (p : Printing) (id : UInt32) (fp : List UInt8) : Prop where
  possible : p.viewer.rpcMethodInvokePossible = true
  wrapper : p.wrapper.status = .active
  file : p.files.lookup id = some fp

theorem Connection.active_of_possible {c : Connection} (h : c.rpcMethodInvokePossible = true) : c.status = .active := by
  simp only [Connection.rpcMethodInvokePossible, Bool.and_eq_true, beq_iff_eq] at h
  exact h.1

section
variable {id : UInt32} {fp : List UInt8} {printData : NPPrintData}

/-- A piece that is read is written, and answered. -/
theorem handleNPNPrintData_ok {bs rs rest : List UInt8} (h : printData.data ≠ [])
    (hargs : Reads InMessage.source (rpcMessageRecvArgs printDataTypes [.uint32, .user RpcType.npPrintData]) bs
      (pieceArgs id printData))
    (hreply : ∀ c m, c.status ≠ .closed → OutMessage.Live m → ∃ t,
      rpcMethodSendReply printDataTypes [] c m = some (.ok (), c.touch.lowerHandle, t) ∧ t.Live ∧ t.sent = m.sent ++ rs)
    (e : Endpoint PrintFiles) (hc : e.conn.status ≠ .closed) (hin : e.incoming.Live)
    (hheld : e.incoming.held = bs ++ rest) (hout : e.outgoing.Live) (hfile : e.user.lookup id = some fp) :
    ∃ e', handleNPNPrintData e = some (0, e') ∧ e'.conn.status = e.conn.status ∧
      e'.user = e.user.insert id (fp ++ printData.data) ∧ e'.outgoing.sent = e.outgoing.sent ++ rs := by
  obtain ⟨t, ht, -, -⟩ := hargs e.incoming rest hin hheld
  obtain ⟨u, hu, -, hsent⟩ := hreply e.conn.raiseHandle e.outgoing hc hout
  refine ⟨⟨e.conn.raiseHandle.touch.lowerHandle, t, u, e.user.insert id (fp ++ printData.data)⟩, ?_, rfl, rfl, hsent⟩
  simp only [handleNPNPrintData, Endpoint.receives, rpcMethodGetArgs, if_neg hc, routed, ht, Option.map_some, pieceArgs,
    writePrintData, hfile, if_neg h, Endpoint.sends, hu, errorCode]

/-- An empty piece is an error, whether its arguments are read or not. -/
theorem handleNPNPrintData_failed {bs rest : List UInt8} (h : printData.data = [])
    (hargs : Tries InMessage.source (rpcMessageRecvArgs printDataTypes [.uint32, .user RpcType.npPrintData]) bs
      (pieceArgs id printData) Failure.Negative)
    (e : Endpoint PrintFiles) (hc : e.conn.status ≠ .closed) (hin : e.incoming.Live)
    (hheld : e.incoming.held = bs ++ rest) (hfile : e.user.lookup id = some fp) :
    ∃ error e', error < 0 ∧ e'.outgoing = e.outgoing ∧ handleNPNPrintData e = some (error, e') := by
  rcases hargs e.incoming rest hin hheld with ⟨t, ht, -, -⟩ | ⟨failure, t, ht, hneg⟩
  · refine ⟨RpcError.errnoSet, { e with conn := e.conn.raiseHandle, incoming := t }, by decide, rfl, ?_⟩
    simp only [handleNPNPrintData, Endpoint.receives, rpcMethodGetArgs, if_neg hc, routed, ht, Option.map_some,
      pieceArgs, writePrintData, hfile, if_pos h]
  · cases failure with
    | fault => exact hneg.elim
    | error error =>
      refine ⟨error, { e with conn := e.conn.raiseHandle.rpcError error, incoming := t }, hneg, rfl, ?_⟩
      simp only [handleNPNPrintData, Endpoint.receives, rpcMethodGetArgs, if_neg hc, routed, ht, Option.map_some]

variable {p : Printing} {k : Carriage}

/-- The call of a piece arrives. -/
theorem piece_sent {bs : List UInt8} (hviewer : p.viewer.status ≠ .closed) (hk : k.Live)
    (hw : Writes OutMessage.sink (rpcMessageSendArgs printDataTypes (pieceArgs id printData)) bs ()) :
    ∃ m, rpcMethodInvoke printDataTypes RpcMethod.npnPrintData (pieceArgs id printData) p.viewer ⟨[], [], k.callOut⟩ =
        some (.ok (), p.viewer.raiseInvoke, m) ∧
      (k.callIn m.sent).Live ∧ (k.callIn m.sent).held = callHeader RpcMethod.npnPrintData ++ bs := by
  have hlive : OutMessage.Live ⟨[], [], k.callOut⟩ := hk.callOut
  obtain ⟨m, hm, -, hsent⟩ := rpcMethodInvoke_sent hw RpcMethod.npnPrintData hviewer hlive
  obtain ⟨hin, hheld⟩ := hk.callIn m.sent
  exact ⟨m, hm, hin, hheld.trans hsent⟩

/-- A piece that holds something is accepted, and both ends are as they were. -/
theorem piece_accepted (hready : p.Ready id fp) (hk : k.Live) (h : printData.data ≠ []) :
    ∃ q, p.invokeNPNPrintData id printData k = some (true, q) ∧ q.Ready id (fp ++ printData.data) := by
  have hviewer : p.viewer.status ≠ .closed := by simp [Connection.active_of_possible hready.possible]
  have hwrapper : p.wrapper.status ≠ .closed := by simp [hready.wrapper]
  have hnone : ArgsCross printDataTypes [] := Exchanges.pure []
  obtain ⟨bs, hw, hr⟩ := pieceArgs_cross id h
  obtain ⟨rs, hsend, hwait⟩ := replyCrosses_of_argsCross hnone
  obtain ⟨m, hm, hin, hheld⟩ := piece_sent hviewer hk hw
  have hround : ∃ e : Endpoint PrintFiles, rpcDispatchRound printMethods RpcMessage.reply
        ⟨p.wrapper, k.callIn m.sent, ⟨[], [], k.replyOut⟩, p.files⟩ =
          some (.again, { e with conn := e.conn.lowerDispatch }) ∧
      e.conn.status = .active ∧ e.user = p.files.insert id (fp ++ printData.data) ∧ e.outgoing.sent = rs := by
    refine rpcDispatchRound_ok (by decide) rfl (by decide) _ hin hheld fun t htl hrest => ?_
    rw [← List.append_nil bs] at hrest
    obtain ⟨e, he, hstatus, huser, hsent⟩ := handleNPNPrintData_ok h hr hsend
      ⟨p.wrapper.raiseDispatch, t, ⟨[], [], k.replyOut⟩, p.files⟩ hwrapper htl hrest hk.replyOut hready.file
    exact ⟨e, he, hstatus.trans hready.wrapper, huser, hsent⟩
  obtain ⟨e, hround, hstatus, huser, hreply⟩ := hround
  obtain ⟨hrin, hrheld⟩ := hk.replyIn rs
  obtain ⟨t, ht, -, -⟩ := hwait (fun _ _ => none) 0 p.viewer.raiseInvoke (k.replyIn rs) [] hviewer hrin
    (hrheld.trans (List.append_nil rs).symm)
  refine ⟨⟨p.viewer.raiseInvoke.touch.lowerInvoke, e.conn.lowerDispatch, e.user⟩, ?_, hready.possible, hstatus, ?_⟩
  · rw [List.map_nil] at ht
    rw [pieceArgs] at hm
    simp only [Printing.invokeNPNPrintData, hready.possible, if_true, hm, Printing.serve, hround, Option.map_some,
      Printing.waitForReply, hreply, ht]
  · rw [huser]
    exact AList.lookup_insert _

/-- An empty piece is not accepted. -/
theorem piece_refused (hready : p.Ready id fp) (hk : k.Live) (h : printData.data = []) {accepted : Bool} {q : Printing}
    (hrun : p.invokeNPNPrintData id printData k = some (accepted, q)) : accepted = false := by
  have hviewer : p.viewer.status ≠ .closed := by simp [Connection.active_of_possible hready.possible]
  have hwrapper : p.wrapper.status ≠ .closed := by simp [hready.wrapper]
  obtain ⟨bs, hw, hr⟩ := pieceArgs_empty id h
  obtain ⟨m, hm, hin, hheld⟩ := piece_sent hviewer hk hw
  have hround : ∃ error e, rpcDispatchRound printMethods RpcMessage.reply
      ⟨p.wrapper, k.callIn m.sent, ⟨[], [], k.replyOut⟩, p.files⟩ = some (.failed error, e) := by
    refine rpcDispatchRound_failed (by decide) rfl _ hin hheld fun t htl hrest => ?_
    rw [← List.append_nil bs] at hrest
    obtain ⟨error, e, hneg, hout, he⟩ := handleNPNPrintData_failed h hr
      ⟨p.wrapper.raiseDispatch, t, ⟨[], [], k.replyOut⟩, p.files⟩ hwrapper htl hrest hready.file
    exact ⟨error, e, hneg, by rw [hout]; exact hk.replyOut, he⟩
  obtain ⟨error, e, hround⟩ := hround
  rw [pieceArgs] at hm
  simp only [Printing.invokeNPNPrintData, hready.possible, if_true, hm, Printing.serve, hround, Option.map_some] at hrun
  obtain ⟨q', -, hq⟩ := Option.map_eq_some_iff.mp hrun
  exact (congrArg Prod.fst hq).symm

/-! ### The pieces of a file -/

variable {carriage : Nat → Carriage} {pieces : List NPPrintData} {i : Nat}

/-- By induction over the pieces: each is accepted, so the next one meets the same state. -/
theorem pieces_accepted (hready : p.Ready id fp) (hk : ∀ i, (carriage i).Live)
    (h : ∀ piece ∈ pieces, piece.data ≠ []) : ∃ q, Printing.invokeAll id carriage i pieces p = some (true, q) ∧
      q.Ready id (fp ++ pieces.flatMap NPPrintData.data) := by
  induction pieces generalizing p fp i with
  | nil =>
    refine ⟨p, rfl, ?_⟩
    rw [List.flatMap_nil, List.append_nil]
    exact hready
  | cons piece pieces ih =>
    obtain ⟨q, hq, hqready⟩ := piece_accepted hready (hk i) (h piece (List.mem_cons_self ..))
    obtain ⟨r, hr, hrready⟩ := ih (i := i + 1) hqready fun piece hp => h piece (List.mem_cons_of_mem _ hp)
    refine ⟨r, ?_, ?_⟩
    · simp only [Printing.invokeAll, hq, hr, Option.map_some, Bool.and_self]
    · rw [List.flatMap_cons, ← List.append_assoc]
      exact hrready

/-- The pieces before an empty one are accepted, and it is not. -/
theorem pieces_refused (hready : p.Ready id fp) (hk : ∀ i, (carriage i).Live) (h : ∃ piece ∈ pieces, piece.data = [])
    {all : Bool} {q : Printing} (hrun : Printing.invokeAll id carriage i pieces p = some (all, q)) : all = false := by
  induction pieces generalizing p fp i all q with
  | nil => simp at h
  | cons piece pieces ih =>
    rw [Printing.invokeAll] at hrun
    cases hpiece : p.invokeNPNPrintData id piece (carriage i) with
    | none => simp [hpiece] at hrun
    | some result =>
      obtain ⟨accepted, p'⟩ := result
      simp only [hpiece] at hrun
      obtain ⟨⟨rest, q'⟩, hrest, hq⟩ := Option.map_eq_some_iff.mp hrun
      obtain rfl : (accepted && rest) = all := congrArg Prod.fst hq
      by_cases hempty : piece.data = []
      · rw [piece_refused hready (hk i) hempty hpiece, Bool.false_and]
      · obtain ⟨r, hr, hrready⟩ := piece_accepted hready (hk i) hempty
        rw [hpiece, Option.some.injEq, Prod.mk.injEq] at hr
        obtain ⟨-, rfl⟩ := hr
        have hlater : ∃ piece ∈ pieces, piece.data = [] := by
          obtain ⟨e, he, hdata⟩ := h
          rcases List.mem_cons.mp he with rfl | he
          · exact absurd hdata hempty
          · exact ⟨e, he, hdata⟩
        rw [ih hrready hlater hrest, Bool.and_false]

variable {size : { size : Nat // size ≤ printDataMaxSize }} {n : Nat} {file : List UInt8}

/-- Together they are the front of the file. -/
theorem fullPrintData_data :
    (fullPrintData size n file).flatMap NPPrintData.data = file.take (n * printDataMaxSize + size) := by
  induction n generalizing file with
  | zero => simp [fullPrintData, NPPrintData.ofFile]
  | succ n ih =>
    have hsum : (n + 1) * printDataMaxSize + size = printDataMaxSize + (n * printDataMaxSize + size) := by
      rw [Nat.succ_mul, Nat.add_right_comm, Nat.add_comm]
    have hsplit := List.take_add (l := file) (i := printDataMaxSize) (j := n * printDataMaxSize + size)
    rw [fullPrintData, List.flatMap_cons, ih, hsum, hsplit]
    rfl

theorem fullPrintData_nonempty (hsize : 0 < size.val) (hfile : n * printDataMaxSize + size ≤ file.length) :
    ∀ piece ∈ fullPrintData size n file, piece.data ≠ [] := by
  have hfull (m : Nat) (hm : 0 < m) (file : List UInt8) (hlen : m ≤ file.length) : file.take m ≠ [] := by
    intro hnil
    have hlength := congrArg List.length hnil
    rw [List.length_take, List.length_nil] at hlength
    omega
  induction n generalizing file with
  | zero => simpa [fullPrintData, NPPrintData.ofFile] using hfull size hsize file (by omega)
  | succ n ih =>
    rw [Nat.succ_mul, Nat.add_right_comm] at hfile
    intro piece hpiece
    rcases List.mem_cons.mp hpiece with rfl | hpiece
    · have hlen : printDataMaxSize ≤ file.length := (Nat.le_add_left ..).trans hfile
      exact hfull printDataMaxSize (by simp) file hlen
    · have hdrop : n * printDataMaxSize + size ≤ (file.drop printDataMaxSize).length := by
        rw [List.length_drop]
        exact Nat.le_sub_of_add_le hfile
      exact ih hdrop piece hpiece

/-- The last piece holds nothing where nothing is left over. -/
theorem fullPrintData_empty (hsize : size.val = 0) : ∃ piece ∈ fullPrintData size n file, piece.data = [] := by
  induction n generalizing file with
  | zero => exact ⟨_, List.mem_singleton_self _, by simp [NPPrintData.ofFile, hsize]⟩
  | succ n ih =>
    obtain ⟨piece, hpiece, h⟩ := @ih (file.drop printDataMaxSize)
    exact ⟨piece, List.mem_cons_of_mem _ hpiece, h⟩

/-! ### The transfer -/

theorem countdown_cInt {q : Nat} (h : q < 2 ^ 31) : countdown (cInt q) = some q := by
  rw [cInt_of_lt h, countdown, if_neg (by omega)]
  rfl

/-- A count that an `int` does not hold comes out smaller. -/
theorem countdown_cInt_lt {q n : Nat} (h : 2 ^ 31 ≤ q) (hn : countdown (cInt q) = some n) : n < q := by
  have hle : cInt q < 2 ^ 31 := Int.bmod_lt (by decide)
  rw [countdown] at hn
  split at hn
  · cases hn
  · have hn := Option.some.inj hn
    omega

theorem printDataOf_eq (hfile : file ≠ []) {n : Nat}
    (hn : countdown (cInt (file.length / printDataMaxSize : Nat)) = some n) : printDataOf file =
      some (fullPrintData ⟨file.length % printDataMaxSize, (Nat.mod_lt _ (by decide)).le⟩ n file) := by
  rw [printDataOf, if_pos (List.length_pos_iff.mpr hfile), hn]
  rfl

/-- Every piece was accepted, the browser's file has the plugin's behind what it had, and both connections
    are up. -/
def Printing.Transfers (p : Printing) (id : UInt32) (fp file : List UInt8) (carriage : Nat → Carriage) : Prop :=
  ∃ q, writebackPrintData id file carriage p = some (true, q) ∧ q.files.lookup id = some (fp ++ file) ∧
    q.viewer.status = .active ∧ q.wrapper.status = .active

/-- A file of full pieces only is followed by an empty one. -/
theorem not_transfers_of_full (hready : p.Ready id fp) (hk : ∀ i, (carriage i).Live) (hfile : file ≠ [])
    (h : file.length % printDataMaxSize = 0) : ¬p.Transfers id fp file carriage := by
  rintro ⟨q, hrun, -⟩
  rw [writebackPrintData] at hrun
  cases hn : countdown (cInt (file.length / printDataMaxSize : Nat)) with
  | none =>
    rw [printDataOf, if_pos (List.length_pos_iff.mpr hfile), hn] at hrun
    cases hrun
  | some n =>
    rw [printDataOf_eq hfile hn] at hrun
    cases pieces_refused hready hk (fullPrintData_empty h) hrun

/-- Otherwise every piece that is counted is accepted, and the last. -/
theorem writeback_accepted (hready : p.Ready id fp) (hk : ∀ i, (carriage i).Live) (hfile : file ≠ [])
    (h : file.length % printDataMaxSize ≠ 0) (hle : n ≤ file.length / printDataMaxSize)
    (hn : countdown (cInt (file.length / printDataMaxSize : Nat)) = some n) :
    ∃ q, writebackPrintData id file carriage p = some (true, q) ∧
      q.Ready id (fp ++ file.take (n * printDataMaxSize + file.length % printDataMaxSize)) := by
  have hfits : n * printDataMaxSize + file.length % printDataMaxSize ≤ file.length := by
    have hmul := Nat.mul_le_mul_right printDataMaxSize hle
    exact (Nat.add_le_add_right hmul _).trans_eq (Nat.div_add_mod' file.length printDataMaxSize)
  have hpieces := @fullPrintData_nonempty ⟨_, (Nat.mod_lt _ (by decide)).le⟩ n file (Nat.pos_of_ne_zero h) hfits
  obtain ⟨q, hq, hqready⟩ := pieces_accepted (i := 0) hready hk hpieces
  rw [fullPrintData_data] at hqready
  refine ⟨q, ?_, hqready⟩
  rw [writebackPrintData, printDataOf_eq hfile hn]
  exact hq

/-- A print file comes across when its last piece holds something and an `int` counts the pieces before. -/
theorem print_transfers_iff (id : UInt32) (fp file : List UInt8) (hfile : file ≠ []) (p : Printing)
    (hready : p.Ready id fp) (carriage : Nat → Carriage) (hk : ∀ i, (carriage i).Live) :
    p.Transfers id fp file carriage ↔ file.length % 4096 ≠ 0 ∧ file.length / 4096 < 2 ^ 31 := by
  have hdiv := Nat.div_add_mod' file.length printDataMaxSize
  by_cases hfull : file.length % printDataMaxSize = 0
  · exact iff_of_false (not_transfers_of_full hready hk hfile hfull) fun h => h.1 hfull
  by_cases hcount : file.length / printDataMaxSize < 2 ^ 31
  · refine iff_of_true ?_ ⟨hfull, hcount⟩
    obtain ⟨q, hq, hqready⟩ := writeback_accepted hready hk hfile hfull (Nat.le_refl _) (countdown_cInt hcount)
    rw [hdiv, List.take_length] at hqready
    exact ⟨q, hq, hqready.file, Connection.active_of_possible hqready.possible, hqready.wrapper⟩
  · refine iff_of_false ?_ fun h => hcount h.2
    rintro ⟨q, hrun, hlookup, -⟩
    cases hn : countdown (cInt (file.length / printDataMaxSize : Nat)) with
    | none =>
      rw [writebackPrintData, printDataOf, if_pos (List.length_pos_iff.mpr hfile), hn] at hrun
      cases hrun
    | some n =>
      -- the pieces that are counted are fewer than the file has
      have hlt := countdown_cInt_lt (Nat.le_of_not_lt hcount) hn
      obtain ⟨r, hr, hrready⟩ := writeback_accepted hready hk hfile hfull hlt.le hn
      rw [hrun, Option.some.injEq, Prod.mk.injEq] at hr
      obtain ⟨-, rfl⟩ := hr
      have hsame := Option.some.inj (hlookup.symm.trans hrready.file)
      have hlength := congrArg List.length (List.append_cancel_left hsame)
      have hmul := Nat.mul_le_mul_right printDataMaxSize (Nat.succ_le_of_lt hlt)
      rw [Nat.succ_mul] at hmul
      rw [List.length_take] at hlength
      have hpos : 0 < printDataMaxSize := by simp
      omega

end

/-! ### A print job -/

/-- Everything goes out at once and comes in at once. -/
def Carriage.direct : Carriage := ⟨[], fun bs => ⟨leftover bs, []⟩, [], fun bs => ⟨leftover bs, []⟩⟩

theorem Carriage.direct_live : Carriage.direct.Live := by
  have hin (bs : List UInt8) : InMessage.Live ⟨leftover bs, []⟩ ∧ InMessage.held ⟨leftover bs, []⟩ = bs := by
    refine ⟨⟨fun e he => ?_, fun ok h => nomatch h⟩, leftover_bytes bs⟩
    cases bs with
    | nil => cases he
    | cons b bs =>
      rw [List.mem_singleton.mp he]
      trivial
  exact ⟨fun _ he => (nomatch he), hin, fun _ he => (nomatch he), hin⟩

/-- The viewer handles NPP_Print, and the print data 1 of the browser has an empty file. -/
def Printing.start : Printing where
  viewer := { Connection.rpcInit .server with dispatchDepth := 1, handleDepth := 1 }
  wrapper := { Connection.rpcInit .client with invokeDepth := 1 }
  files := AList.insert 1 [] ∅

theorem Printing.start_ready : Printing.start.Ready 1 [] := ⟨rfl, rfl, AList.lookup_insert _⟩

theorem print_transfers_one : Printing.start.Transfers 1 [] [65] fun _ => .direct :=
  (print_transfers_iff 1 [] [65] (by decide) .start Printing.start_ready _ fun _ => Carriage.direct_live).mpr
    ⟨by decide, by decide⟩

/-- A file of 4096 bytes. -/
theorem print_transfers_fails : ¬∀ (id : UInt32) (fp file : List UInt8), file ≠ [] → ∀ p : Printing, p.Ready id fp →
    ∀ carriage : Nat → Carriage, (∀ i, (carriage i).Live) → p.Transfers id fp file carriage := by
  intro h
  have hfile : List.replicate 4096 (0 : UInt8) ≠ [] := by
    rw [← List.length_pos_iff, List.length_replicate]
    exact Nat.zero_lt_succ _
  refine not_transfers_of_full Printing.start_ready (fun _ => Carriage.direct_live) hfile ?_
    (h 1 [] _ hfile .start Printing.start_ready (fun _ => .direct) fun _ => Carriage.direct_live)
  rw [List.length_replicate]
  exact Nat.mod_self _

end NSPluginWrapper
