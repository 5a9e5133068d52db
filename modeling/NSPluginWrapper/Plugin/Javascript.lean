import NSPluginWrapper.Plugin.Info

/-! npw-player.c: the javascript: urls that on_stream_close_cb handles itself. They start with `top.location`, to which
    quoted strings are added. -/

namespace NSPluginWrapper
open Lib

namespace Javascript

/-- A read behind the terminator of the url. -/
inductive Fault where
  | overread
  deriving Repr, DecidableEq

def plus : UInt8 := 43

def quote : UInt8 := 34

/-- g_ascii_isspace(); a vertical tab is none. -/
def gAsciiIsspace (ch : UInt8) : Bool := ch = 32 ∨ ch = 12 ∨ ch = 10 ∨ ch = 13 ∨ ch = 9

def gAsciiTolower (ch : UInt8) : UInt8 := if 65 ≤ ch ∧ ch ≤ 90 then ch + 32 else ch

/-- g_ascii_strncasecmp() of `str` and `prefix`, which is in lower case, for the length of that. -/
def startsWith (str lower : List UInt8) : Bool := (str.take lower.length).map gAsciiTolower = lower

/-- What one round of the loop over the code finds. -/
inductive Item where
  | done
  | malformed
  | string (str rest : List UInt8)
  deriving Repr, DecidableEq

/-- One round; the terminator is where the list ends. -/
def nextString (jscode : List UInt8) : Except Fault Item :=
  match jscode.dropWhile gAsciiIsspace with
  | [] => .ok .done
  | ch :: jscode =>
    if ch ≠ plus ∨ jscode = [] then .ok .malformed
    else match jscode.dropWhile gAsciiIsspace with
      | [] => .ok .malformed
      | ch :: str =>
        if ch ≠ quote ∨ str = [] then .ok .malformed
        else match str.dropWhile (· ≠ quote) with
          -- the break leaves the inner loop only, and the terminator is skipped like a quote
          | [] => .error .overread
          | _ :: rest => .ok (.string (str.takeWhile (· ≠ quote)) rest)

theorem nextString_shorter {jscode str rest : List UInt8} (h : nextString jscode = .ok (.string str rest)) :
    rest.length < jscode.length := by
  rw [nextString] at h
  split at h
  · cases h
  · rename_i ch₁ code hcode
    split at h
    · cases h
    · split at h
      · cases h
      · rename_i ch₂ quoted hquoted
        split at h
        · cases h
        · split at h
          · cases h
          · rename_i ch₃ left hleft
            cases h
            have h₁ := (List.dropWhile_suffix gAsciiIsspace (l := jscode)).length_le
            have h₂ := (List.dropWhile_suffix gAsciiIsspace (l := code)).length_le
            have h₃ := (List.dropWhile_suffix (· ≠ quote) (l := quoted)).length_le
            simp only [hcode, hquoted, hleft, List.length_cons] at h₁ h₂ h₃
            omega

/-- The loop over what is behind `top.location`. -/
def concatenate (jscode text : List UInt8) : Except Fault (Option (List UInt8)) :=
  match _h : nextString jscode with
  | .error e => .error e
  | .ok .done => .ok (some text)
  | .ok .malformed => .ok none
  | .ok (.string str rest) => concatenate rest (text ++ str)
termination_by jscode.length
decreasing_by exact nextString_shorter _h

/-- What on_stream_close_cb makes of `url`: nothing if it is no javascript: url, else perhaps a text that is read. -/
def javascript (src : Option CString) (url : CString) : Except Fault (Option (Option (List UInt8))) :=
  if startsWith url.bytes (ascii "javascript:") then
    let jscode := url.bytes.drop 11
    if startsWith jscode (ascii "top.location") then
      some <$> concatenate (jscode.drop 12) ((src.map CString.bytes).getD [])
    else .ok (some none)
  else .ok none

end Javascript
end NSPluginWrapper
