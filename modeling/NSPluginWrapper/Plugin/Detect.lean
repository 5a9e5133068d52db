import NSPluginWrapper.Lib.Search
import NSPluginWrapper.Plugin.Expand
import NSPluginWrapper.Plugin.Install

/-! npw-config.c: the search for a viewer that runs a plugin, through NPW_VIEWER_PATHS, where each path is tried for
    each architecture and each operating system. -/

namespace NSPluginWrapper
open Lib

/-- What the search goes by: HOST_ARCH, HOST_OS and NPW_VIEWER_PATHS of the build, whether native plugins are wrapped,
    which paths there are, and which viewers say that they can run the plugin. No answer changes in between. -/
structure DetectHost where
  hostArch : CString
  hostOs : CString
  npwViewerPaths : CString
  npwViewerPaths_small : npwViewerPaths.bytes.length < 2 ^ 31
  allowNative : Bool
  access : List UInt8 → Bool
  isPluginViewerOk : List UInt8 → Bool

/-- How the process ends before the search does: in error(), or where strexpand() or strcat() leaves the memory that is
    its own. -/
inductive DetectStop where
  | error
  | fault (f : ExpandFault)
  deriving Repr, DecidableEq

/-- EXIT_VIEWER_OK, with what `out_plugin_info` holds then, EXIT_VIEWER_NOT_FOUND and EXIT_VIEWER_NATIVE. -/
inductive Detected where
  | ok (target : PluginTarget)
  | notFound
  | native
  deriving Repr, DecidableEq

abbrev DetectResult := Except DetectStop Detected

/-- NPW_VIEWER. -/
def npwViewer : List UInt8 := ascii "npviewer"

/-- `viewer_path_len`. -/
def viewerPathLen : Int32 := 4087

def colon : UInt8 := 58

/-- Where the first `substr` is. -/
def strstr (str substr : List UInt8) : Option Nat :=
  if substr.isPrefixOf str then some 0
  else
    match str with
    | [] => none
    | _ :: rest => (strstr rest substr).map (· + 1)

/-- The same within `len` characters, or within all of them if there are none. -/
def strnstr (str : List UInt8) (len : Nat) (substr : List UInt8) : Option Nat :=
  match strstr str substr with
  | none => none
  | some pos => if 0 < len ∧ len < pos + substr.length then none else some pos

/-- The paths up to each colon: what is left of the string from each on, and its length. -/
def viewerPathSpecs (paths : List UInt8) : List (List UInt8 × Nat) :=
  let len := (paths.takeWhile (· ≠ colon)).length
  if len < paths.length then (paths, len) :: viewerPathSpecs (paths.drop (len + 1)) else [(paths, len)]
termination_by paths.length
decreasing_by
  rw [List.length_drop]
  omega

/-- A table of what is known, what is tried anyhow, and a NULL. -/
def targetTable (known : CString) (otherwise : List UInt8) : List (Option CString) :=
  [if known.bytes = [] then none else some known, some (.ofBytes otherwise), none]

def targetArchTable (target : PluginTarget) : List (Option CString) := targetTable target.targetArch (ascii "i386")

def targetOsTable (target : PluginTarget) : List (Option CString) := targetTable target.targetOs (ascii "linux")

def detectVars (arch os : CString) : List Var := [⟨.ofBytes (ascii "ARCH"), some arch⟩, ⟨.ofBytes (ascii "OS"), some os⟩]

/-- What comes of one path: the process ends, there is no such viewer, it runs the plugin, or it does not. -/
inductive ViewerTry where
  | stops (e : DetectStop)
  | absent
  | runs (target : PluginTarget)
  | refuses
  deriving Repr, DecidableEq

/-- The viewer that a path stands for, none where it does not fit. -/
def expandViewerPath (spec : List UInt8) (len : Nat) (vars : List Var) : Except DetectStop (Option (List UInt8)) :=
  match strexpand viewerPathLen (.ofBytes spec) (.ofNat len) vars with
  | .error f => .error (.fault f)
  | .ok expanded =>
    match expanded.result with
    | none => .error .error
    | some ret =>
      if ret < 0 then .ok none
      else
        let viewerPath := (CString.ofBytes expanded.dst).bytes ++ (ascii "/" ++ npwViewer)
        if pathMax ≤ viewerPath.length then .error (.fault .overwrite) else .ok (some viewerPath)

namespace DetectHost

variable (host : DetectHost)

def tryViewer (spec : List UInt8) (len : Nat) (arch os : CString) : ViewerTry :=
  match expandViewerPath spec len (detectVars arch os) with
  | .error e => .stops e
  | .ok none => .absent
  | .ok (some viewerPath) =>
    if !host.access viewerPath then .absent
    else if host.isPluginViewerOk viewerPath then .runs ⟨arch, os, .ofBytes viewerPath⟩
    else .refuses

/-- One turn of the loop over the operating systems. -/
def tryOs (spec : List UInt8) (len : Nat) (arch : CString) : Option CString → Attempt DetectResult
  | none => .next
  | some os =>
    match host.tryViewer spec len arch os with
    | .stops e => .ends (.error e)
    | .absent => .next
    | .runs target => .ends (.ok (.ok target))
    | .refuses => if strnstr spec len (ascii "%OS%") = none then .last else .next

/-- One turn of the loop over the architectures. -/
def tryArch (spec : List UInt8) (len : Nat) (oss : List (Option CString)) : Option CString → Attempt DetectResult
  | none => .next
  | some arch =>
    match tryEach (host.tryOs spec len arch) oss with
    | some r => .ends r
    | none => if strnstr spec len (ascii "%ARCH%") = none then .last else .next

/-- A plugin for the system itself, which needs no viewer. -/
def isNative (target : PluginTarget) : Bool :=
  !host.allowNative && decide (target.targetArch = host.hostArch) && decide (target.targetOs = host.hostOs)

def detectPluginViewer (target : PluginTarget) : DetectResult :=
  if host.isNative target then .ok .native
  else
    match (viewerPathSpecs host.npwViewerPaths.bytes).findSome? fun (spec, len) =>
        tryEach (host.tryArch spec len (targetOsTable target)) (targetArchTable target) with
    | some r => r
    | none => .ok .notFound

end DetectHost

end NSPluginWrapper
