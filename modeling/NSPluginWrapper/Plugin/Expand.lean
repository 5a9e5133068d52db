import NSPluginWrapper.Rpc.Message

/-! npw-config.c: a path with variables such as `%ARCH%`, expanded into a buffer. -/

namespace NSPluginWrapper

def percent : UInt8 := 37

structure Var where
  name : CString
  value : Option CString
  deriving Repr, DecidableEq

/-- The value of the first variable with that name. -/
def Var.find (vars : List Var) (name : List UInt8) : Option CString :=
  (vars.find? fun v => v.name.bytes == name).bind (·.value)

/-- A write past `dst + dstlen`, or a read past the end of the source. -/
inductive ExpandFault where
  | overwrite
  | overread
  deriving Repr, DecidableEq

/-- How a call ends: with a result, or in error(), which ends the process; what is in `dst` then, and how much of the
    source was looked at. -/
structure Expanded where
  result : Option Int
  dst : List UInt8
  consumed : Nat
  deriving Repr, DecidableEq

/-- `sizeof(var) - 1`. -/
def varSize : Nat := 15

/-- `rest` is the source from `i` on. -/
def strexpandLoop (dstlen srclen : Int) (vars : List Var) (i : Nat) (rest dst : List UInt8) : Except ExpandFault Expanded :=
  if (i : Int) < srclen then
    match rest with
    | [] => .error .overread
    | ch :: rest =>
      if ch ≠ percent then
        if dstlen ≤ dst.length then .error .overwrite
        else if dstlen - 1 ≤ dst.length + 1 then .ok ⟨some (-1), dst ++ [ch], i + 1⟩
        else strexpandLoop dstlen srclen vars (i + 1) rest (dst ++ [ch])
      else
        let str := rest.takeWhile (· ≠ percent)
        let len := cInt str.length
        if str.length = rest.length then .ok ⟨none, dst, i + 2 + str.length⟩
        else if len < 0 ∨ varSize ≤ len then .ok ⟨none, dst, i + 2 + str.length⟩
        else
          match Var.find vars (str.take len.toNat) with
          | none => .ok ⟨none, dst, i + 2 + str.length⟩
          | some value =>
            let copied := cInt value.bytes.length
            if copied < 0 ∨ dstlen < dst.length + copied then .error .overwrite
            else strexpandLoop dstlen srclen vars (i + 2 + len.toNat) (rest.drop (len.toNat + 1))
              (dst ++ value.bytes.take copied.toNat)
  else if dstlen ≤ dst.length then .error .overwrite
  else .ok ⟨some 0, dst ++ [0], i⟩
termination_by rest.length
decreasing_by
  · exact Nat.lt_succ_self _
  · exact Nat.lt_succ_of_le (List.length_drop ▸ Nat.sub_le _ _)

/-- The length that the loop goes by: strlen() comes back as an `int`. -/
def sourceLength (src : CString) (srclen : Int32) : Int := if srclen ≤ 0 then cInt src.bytes.length else srclen.toInt

/-- Neither `dst` nor `src` is NULL. -/
def strexpand (dstlen : Int32) (src : CString) (srclen : Int32) (vars : List Var) : Except ExpandFault Expanded :=
  if dstlen < 1 then .ok ⟨some (-1), [], 0⟩
  else strexpandLoop dstlen.toInt (sourceLength src srclen) vars 0 src.bytes []

end NSPluginWrapper
