import NSPluginWrapper.Lib.Table
import NSPluginWrapper.Npapi.Marshal
import NSPluginWrapper.Rpc.Dispatch

/-! NPP_Print's way back: the viewer cuts the file a plugin has printed to into NPN_PrintData calls, and the
    wrapper writes each piece to the browser's file. -/

namespace NSPluginWrapper
open Lib

abbrev RpcMethod.npnPrintData : Int32 := 13

namespace RpcType
def npPrintData : UserType := ⟨12, by decide⟩
end RpcType

theorem npPrintData_pos : 0 < 4100 := by simp

theorem npPrintData_lt : 4100 < 2 ^ 31 := by simp

/-- What a connection knows of the type: an NPPrintData is 4100 bytes wide. -/
def printDataTypes : TypeMap NPPrintData := fun t =>
  if t = RpcType.npPrintData then some ⟨4100, npPrintData_pos, npPrintData_lt, doSendNPPrintData, doRecvNPPrintData⟩ else none

/-! ### The wrapper -/

/-- The browser's print files, by the ids of their NPPrintCallbackStructs. -/
abbrev PrintFiles := Table UInt32 (List UInt8)

/-- fwrite() of no bytes writes no element. -/
def writePrintData (platformPrintId : UInt32) (printData : NPPrintData) (e : Endpoint PrintFiles) :
    Option (Int × Endpoint PrintFiles) :=
  match e.user.lookup platformPrintId with
  | none => some (RpcError.generic, e)
  | some fp =>
    if printData.data = [] then
      some (RpcError.errnoSet, e)
    else
      let e := { e with user := e.user.insert platformPrintId (fp ++ printData.data) }
      (e.sends (rpcMethodSendReply printDataTypes [])).map fun (reply, e) => (errorCode reply, e)

/-- The arguments come in the types that were asked for. -/
def handleNPNPrintData (e : Endpoint PrintFiles) : Option (Int × Endpoint PrintFiles) :=
  match e.receives (rpcMethodGetArgs printDataTypes [.uint32, .user RpcType.npPrintData]) with
  | some (.ok [.uint32 platformPrintId, .user _ printData], e) => writePrintData platformPrintId printData e
  | some (.ok _, _) => none
  | some (.error error, e) => some (error, e)
  | none => none

def printMethods : Methods PrintFiles := fun method =>
  if method = RpcMethod.npnPrintData then some handleNPNPrintData else none

/-! ### Both ends -/

/-- How the bytes of one call and of its reply get across: what the send() calls of both ends come to, and
    what the recv() calls of the other end find of the bytes that were sent. -/
structure Carriage where
  callOut : List SendEvent
  callIn : List UInt8 → InMessage
  replyOut : List SendEvent
  replyIn : List UInt8 → InMessage

/-- The viewer in handle_NPP_Print, the wrapper in invoke_NPP_Print, where it waits for the reply, and the
    browser's files. -/
structure Printing where
  viewer : Connection
  wrapper : Connection
  files : PrintFiles

namespace Printing

/-- The round of the wrapper that meets the call, and whether the handler accepted it. An error makes
    `rpc_method_wait_for_reply` return. -/
def serve (p : Printing) (incoming : InMessage) (replyOut : List SendEvent) :
    Option (Bool × Printing × List UInt8) :=
  (rpcDispatchRound printMethods RpcMessage.reply ⟨p.wrapper, incoming, ⟨[], [], replyOut⟩, p.files⟩).map fun
    | (.failed error, e) =>
      (false, { p with wrapper := (e.conn.rpcError error).lowerInvoke, files := e.user }, e.outgoing.sent)
    | (.again, e) => (true, { p with wrapper := e.conn, files := e.user }, e.outgoing.sent)
    | (.found, e) => (false, { p with wrapper := e.conn, files := e.user }, e.outgoing.sent)

/-- The viewer waits for the reply; while it does, the wrapper calls nothing. -/
def waitForReply (p : Printing) (incoming : InMessage) : Option Printing :=
  (rpcMethodWaitForReply printDataTypes (fun _ _ => none) 1 [] p.viewer incoming).map fun (_, viewer, _) =>
    { p with viewer }

/-- Whether the wrapper accepted the piece. What goes wrong is only printed. -/
def invokeNPNPrintData (platformPrintId : UInt32) (printData : NPPrintData) (k : Carriage) (p : Printing) :
    Option (Bool × Printing) :=
  if p.viewer.rpcMethodInvokePossible then
    match rpcMethodInvoke printDataTypes RpcMethod.npnPrintData
        [.uint32 platformPrintId, .user RpcType.npPrintData printData] p.viewer ⟨[], [], k.callOut⟩ with
    | some (.ok (), viewer, message) =>
      match { p with viewer }.serve (k.callIn message.sent) k.replyOut with
      | some (accepted, p, reply) => (p.waitForReply (k.replyIn reply)).map fun p => (accepted, p)
      | none => none
    | some (.error _, viewer, _) => some (false, { p with viewer })
    | none => none
  else
    some (false, p)

/-- The pieces one after the other, and whether every one was accepted; `k i` carries the piece `i`. -/
def invokeAll (platformPrintId : UInt32) (k : Nat → Carriage) : Nat → List NPPrintData → Printing →
    Option (Bool × Printing)
  | _, [], p => some (true, p)
  | i, printData :: rest, p =>
    match p.invokeNPNPrintData platformPrintId printData (k i) with
    | some (accepted, p) => (invokeAll platformPrintId k (i + 1) rest p).map fun (all, p) => (accepted && all, p)
    | none => none

end Printing

/-! ### The viewer -/

/-- `sizeof(printData.data)`. -/
abbrev printDataMaxSize : Nat := 4096

/-- What one fread() of at most so many bytes puts in the buffer. -/
def NPPrintData.ofFile (file : List UInt8) (size : { size : Nat // size ≤ printDataMaxSize }) : NPPrintData where
  data := file.take size.val
  fits := (List.length_take_le ..).trans size.property

/-- `n` full buffers, and the last `size` bytes. -/
def fullPrintData (size : { size : Nat // size ≤ printDataMaxSize }) : Nat → List UInt8 → List NPPrintData
  | 0, file => [.ofFile file size]
  | n + 1, file =>
    .ofFile file ⟨printDataMaxSize, Nat.le_refl _⟩ :: fullPrintData size n (file.drop printDataMaxSize)

/-- How often `while (--n >= 0)` goes round. The least `int` has no predecessor. -/
def countdown (n : Int) : Option Nat := if n = -2 ^ 31 then none else some n.toNat

/-- What handle_NPP_Print sends of a file that is read back from its start. -/
def printDataOf (file : List UInt8) : Option (List NPPrintData) :=
  let fileSize := file.length
  if 0 < fileSize then
    (countdown (cInt (fileSize / printDataMaxSize : Nat))).map fun n =>
      fullPrintData ⟨fileSize % printDataMaxSize, (Nat.mod_lt _ (by decide)).le⟩ n file
  else
    some []

/-- "send back the printed data" of handle_NPP_Print. -/
def writebackPrintData (platformPrintId : UInt32) (file : List UInt8) (k : Nat → Carriage) (p : Printing) :
    Option (Bool × Printing) :=
  match printDataOf file with
  | some pieces => Printing.invokeAll platformPrintId k 0 pieces p
  | none => none

end NSPluginWrapper
