import NSPluginWrapper.Lib.Fallible
import NSPluginWrapper.Plugin.Install

/-! An installed wrapper says what it was installed for, wherever the descriptor is and however long the strings
    are, if the scan meets the descriptor first. -/

namespace NSPluginWrapper
open Lib

variable {b : Build} {host : InstallHost} {handle : Handle} {mem mem' data : List UInt8} {ofs pi size : Nat}
  {str : CString} {bs : List UInt8} {target : PluginTarget} {ver : Int8} {mtime : Int64}

/-! ### One step after the other -/

theorem memcpyTo_ok : memcpyTo mem ofs bs = .ok mem' ↔ ofs + bs.length ≤ mem.length ∧ mem' = write mem ofs bs := by
  rw [memcpyTo]
  split
  · rename_i h
    simp [h, eq_comm]
  · rename_i h
    simp [h]

theorem findDescriptor_ok {w : NPWPluginInfo} (h : findDescriptor b host = .ok (w, ofs)) :
    ∃ handle, host.dlopen = some handle ∧ isWrapperPluginHandle handle host.image = .ok (some w) ∧
      scan b host.image w.ident.bytes.length (host.image.length - pathMax - identSize) identSize = some ofs := by
  rw [findDescriptor] at h
  split at h
  · cases h
  rename_i handle hdl
  obtain ⟨info, hinfo, h⟩ := bind_ok.mp h
  cases info with
  | none => cases h
  | some info =>
    dsimp only at h
    split at h
    · cases h
    split at h
    · cases h
    split at h
    · cases h
    split at h
    · cases h
    split at h
    · cases h
    split at h
    · cases h
    · rename_i hscan
      cases h
      exact ⟨handle, hdl, hinfo, hscan⟩

theorem patchImage_ok {pluginPath : CString} {pluginInfo : Option PluginTarget}
    (h : patchImage host pluginPath pluginInfo ver ofs = .ok (data, target)) :
    ∃ data₀ mtime info, strcpyTo host.image ofs pluginPath = .ok data₀ ∧ host.stat = some mtime ∧ pluginInfo = some info ∧
      completeTarget host pluginPath info = .ok target ∧ patchInfo data₀ (ofs - identSize) mtime target ver = .ok data := by
  obtain ⟨data₀, hpath, h⟩ := bind_ok.mp h
  split at h
  · cases h
  · cases h
  · rename_i mtime info hstat _
    obtain ⟨target', htarget, h⟩ := bind_ok.mp h
    obtain ⟨data', hdata, h⟩ := bind_ok.mp h
    cases h
    exact ⟨data₀, mtime, info, hpath, hstat, rfl, htarget, hdata⟩

theorem doInstallPlugin_ok {pluginPath : CString} {pluginDir : Option CString} {pluginInfo : Option PluginTarget} {r : Installed}
    (h : doInstallPlugin b host pluginPath pluginDir pluginInfo = .ok r) :
    (∃ dir base, pluginDir = some dir ∧ strrchr pluginPath.bytes 47 = some base ∧
      r.path = dir.bytes ++ ascii "/npwrapper." ++ base ∧ r.path.length < pathMax) ∧
    ∃ w ofs, findDescriptor b host = .ok (w, ofs) ∧
      patchImage host pluginPath pluginInfo w.structVersion ofs = .ok (r.contents, r.pluginInfo) := by
  unfold doInstallPlugin at h
  split at h
  · cases h
  · cases h
  rename_i dir base hbase
  dsimp only at h
  by_cases hlong : pathMax ≤ (dir.bytes ++ ascii "/npwrapper." ++ base).length
  · rw [if_pos hlong] at h
    cases h
  rw [if_neg hlong] at h
  obtain ⟨⟨w, ofs⟩, hfind, h⟩ := bind_ok.mp h
  obtain ⟨⟨data, target⟩, hpatch, h⟩ := bind_ok.mp h
  dsimp only at h
  split at h
  · cases h
    exact ⟨⟨dir, base, rfl, hbase, rfl, Nat.not_le.mp hlong⟩, w, ofs, hfind, hpatch⟩
  · cases h

/-! ### The scan -/

theorem scan_some {n places i : Nat} (h : scan b data n places i = some ofs) :
    i ≤ ofs ∧ Matches b data n ofs ∧ ∀ j, i ≤ j → j < ofs → ¬Matches b data n j := by
  induction places generalizing i with
  | zero => cases h
  | succ places ih =>
    rw [scan] at h
    split at h
    · rename_i hi
      cases h
      exact ⟨Nat.le_refl _, hi, fun j hj hlt => absurd hj (Nat.not_le.mpr hlt)⟩
    · rename_i hi
      obtain ⟨hle, hofs, hfirst⟩ := ih h
      refine ⟨Nat.le_of_succ_le hle, hofs, fun j hj hlt => ?_⟩
      rcases Nat.eq_or_lt_of_le hj with rfl | hj
      · exact hi
      · exact hfirst j hj hlt

/-- The scan stops at the first place that matches. -/
theorem scan_first {n places i : Nat} (h : scan b data n places i = some ofs) {first : Nat} (hi : i ≤ first)
    (hm : Matches b data n first) (hfirst : ∀ j, i ≤ j → j < first → ¬Matches b data n j) : ofs = first := by
  obtain ⟨hle, hofs, hbefore⟩ := scan_some h
  rcases Nat.lt_trichotomy ofs first with hlt | heq | hgt
  · exact absurd hofs (hfirst ofs hle hlt)
  · exact heq
  · exact absurd hm (hbefore first hi hgt)

theorem scan_of_first {n places i first : Nat} (hi : i ≤ first) (hlt : first < i + places) (hm : Matches b data n first)
    (hfirst : ∀ j, i ≤ j → j < first → ¬Matches b data n j) : scan b data n places i = some first := by
  induction places generalizing i with
  | zero => exact absurd hlt (Nat.not_lt.mpr hi)
  | succ places ih =>
    rw [scan]
    rcases Nat.eq_or_lt_of_le hi with rfl | hi'
    · rw [if_pos hm]
    · rw [if_neg (hfirst i (Nat.le_refl i) hi')]
      exact ih hi' (by omega) fun j hj => hfirst j (Nat.le_of_succ_le hj)

/-! ### Reading and writing -/

theorem strcpyFrom_at (h : At mem ofs (str.bytes ++ [0])) (hsize : str.bytes.length < size) :
    strcpyFrom mem ofs size = .ok str := by
  have hstr : CString.ofBytes (mem.drop ofs) = str := by
    cases str
    simpa [CString.ofBytes] using h.takeWhile (by assumption)
  have hlen := h.length_le (List.append_ne_nil_of_right_ne_nil _ (List.cons_ne_nil _ _))
  rw [List.length_append, List.length_singleton] at hlen
  rw [strcpyFrom, hstr, if_pos ⟨by omega, hsize⟩]

/-- What a write does: its own bytes, and all others as before. -/
structure Wrote (mem mem' : List UInt8) (ofs : Nat) (bs : List UInt8) : Prop where
  fits : ofs + bs.length ≤ mem.length
  length : mem'.length = mem.length
  here : At mem' ofs bs
  there : ∀ a bs', At mem a bs' → a + bs'.length ≤ ofs ∨ ofs + bs.length ≤ a → At mem' a bs'
  outside : ∀ i, i < ofs ∨ ofs + bs.length ≤ i → mem'[i]? = mem[i]?

theorem memcpyTo_wrote (h : memcpyTo mem ofs bs = .ok mem') : Wrote mem mem' ofs bs := by
  obtain ⟨hfits, rfl⟩ := memcpyTo_ok.mp h
  exact ⟨hfits, length_write hfits, write_at (by omega), fun a bs' hat hd => hat.write hfits hd,
    fun i hi => getElem?_write hfits hi⟩

/-- `info` stands at `pi`. -/
structure Described (mem : List UInt8) (pi : Nat) (info : NPWPluginInfo) : Prop where
  ident : At mem pi (info.ident.bytes ++ [0])
  path : At mem (pi + NPWPluginInfo.pathOfs) (info.path.bytes ++ [0])
  mtime : At mem (pi + NPWPluginInfo.mtimeOfs) (le64 info.mtime.toUInt64)
  targetArch : At mem (pi + NPWPluginInfo.targetArchOfs) (info.targetArch.bytes ++ [0])
  targetOs : At mem (pi + NPWPluginInfo.targetOsOfs) (info.targetOs.bytes ++ [0])
  structVersion : At mem (pi + NPWPluginInfo.structVersionOfs) [info.structVersion.toUInt8]
  viewerPath : At mem (pi + NPWPluginInfo.viewerPathOfs) (info.viewerPath.bytes ++ [0])

/-- The strings of a target fit their members. -/
structure PluginTarget.Fits (target : PluginTarget) : Prop where
  targetArch : target.targetArch.bytes.length < targetSize
  targetOs : target.targetOs.bytes.length < targetSize
  viewerPath : target.viewerPath.bytes.length < pathMax

/-- Nothing is missing. -/
structure PluginTarget.Complete (target : PluginTarget) : Prop where
  targetArch : target.targetArch.bytes ≠ []
  targetOs : target.targetOs.bytes ≠ []
  viewerPath : target.viewerPath.bytes ≠ []

def NPWPluginInfo.toTarget (info : NPWPluginInfo) : PluginTarget := ⟨info.targetArch, info.targetOs, info.viewerPath⟩

/-- A descriptor of this version is read as it is. -/
theorem isWrapperPluginHandle_described {info : NPWPluginInfo} (hfun : handle.npInitialize = true ∧ handle.npShutdown = true ∧
    handle.npGetMIMEDescription = true) (hpi : handle.npwPlugin = some pi) (h : Described mem pi info)
    (hident : info.ident.bytes.take 6 = ascii "NPW:X:") (hlen : info.ident.bytes.length < identSize)
    (hpath : info.path.bytes.length < pathMax) (hfits : info.toTarget.Fits) (hver : info.structVersion = 2) :
    isWrapperPluginHandle handle mem = .ok (some info) := by
  obtain ⟨h1, h2, h3⟩ := hfun
  have hbyte : mem[pi + NPWPluginInfo.structVersionOfs]? = some 2 := by
    have := at_iff.mp h.structVersion 0 (by simp)
    rwa [hver] at this
  have hversion : pluginInfoVersion info.ident (Int8.ofUInt8 2) = 2 := by
    rw [pluginInfoVersion, if_pos hident]
    rfl
  have hmtime : Int64.ofUInt64 (ofLe64 ((mem.drop (pi + NPWPluginInfo.mtimeOfs)).take 8)) = info.mtime := by
    have htake := h.mtime.take
    rw [length_le64] at htake
    rw [htake, ofLe64_le64]
  rw [isWrapperPluginHandle, h1, h2, h3, hpi]
  simp only [Bool.not_true, Bool.or_self, Bool.false_eq_true, if_false]
  simp only [bind, Except.bind, memberFrom, strcpyFrom_at h.ident hlen, strcpyFrom_at h.path hpath,
    strcpyFrom_at h.targetArch hfits.targetArch, strcpyFrom_at h.targetOs hfits.targetOs, strcpyFrom_at h.viewerPath hfits.viewerPath,
    hbyte, Option.getD_some, hversion, hmtime, Int.reduceLE, if_true]
  cases info
  cases hver
  rfl

/-- What recognising says of the ident, the path and the functions of a library. -/
theorem isWrapperPluginHandle_some {w : NPWPluginInfo} (h : isWrapperPluginHandle handle mem = .ok (some w)) :
    (handle.npInitialize = true ∧ handle.npShutdown = true ∧ handle.npGetMIMEDescription = true) ∧
    ∃ pi ident, handle.npwPlugin = some pi ∧ strcpyFrom mem pi identSize = .ok ident ∧ w.ident = ident ∧
      w.structVersion =
        Int8.ofInt (pluginInfoVersion ident (Int8.ofUInt8 (mem[pi + NPWPluginInfo.structVersionOfs]?.getD 0))) := by
  rw [isWrapperPluginHandle] at h
  split at h
  · cases h
  rename_i hfun
  split at h
  · cases h
  rename_i pi hpi
  obtain ⟨ident, hident, h⟩ := bind_ok.mp h
  obtain ⟨path, -, h⟩ := bind_ok.mp h
  obtain ⟨arch, -, h⟩ := bind_ok.mp h
  obtain ⟨os, -, h⟩ := bind_ok.mp h
  obtain ⟨viewer, -, h⟩ := bind_ok.mp h
  cases h
  refine ⟨?_, pi, ident, hpi, hident, rfl, rfl⟩
  simpa [and_assoc] using hfun

/-- A target of which nothing is missing is taken as it is. -/
theorem completeTarget_complete {pluginPath : CString} (h : target.Complete) :
    completeTarget host pluginPath target = .ok target := by
  simp [completeTarget, h.targetArch, h.targetOs, h.viewerPath, bind, Except.bind]

/-! ### The round trip -/

/-- NPW_PLUGIN_IDENT as the member of a descriptor. -/
def Build.ident (b : Build) : CString where
  bytes := b.pluginIdent
  unterminated x hx := by
    rcases List.mem_append.mp hx with hx | hx
    · exact by simpa using List.all_eq_true.mp (rfl : ((ascii "NPW:X:").all (· != 0)) = true) x hx
    · exact b.fullVersion.unterminated x hx

theorem Build.length_ident (b : Build) : b.ident.bytes.length < identSize := by
  have hsix : (ascii "NPW:X:").length = 6 := by decide
  have := b.fullVersion_fits
  have hlen : b.ident.bytes.length = 6 + b.fullVersion.bytes.length := by rw [← hsix]; exact List.length_append
  rw [hlen, identSize]
  omega

theorem Build.take_ident (b : Build) : b.ident.bytes.take 6 = ascii "NPW:X:" :=
  List.take_left' (by decide)

/-- A complete descriptor of this build at `pi`. -/
structure IsDescriptor (b : Build) (mem : List UInt8) (pi : Nat) : Prop where
  complete : pi + NPWPluginInfo.size ≤ mem.length
  ident : At mem pi (b.ident.bytes ++ [0])
  path : At mem (pi + NPWPluginInfo.pathOfs) (b.defaultPluginPath.bytes ++ [0])
  structVersion : At mem (pi + NPWPluginInfo.structVersionOfs) [2]

theorem IsDescriptor.matches (h : IsDescriptor b mem pi) :
    Matches b mem b.ident.bytes.length (pi + identSize) := by
  refine ⟨h.path.of_append, ?_⟩
  rw [Nat.add_sub_cancel]
  have htake : (b.pluginIdent ++ [0]).take b.ident.bytes.length = b.ident.bytes := List.take_left
  rw [htake]
  exact h.ident.of_append

/-- The writes of an installation, one after the other. -/
theorem patch_wrote {pluginPath : CString} {data₀ : List UInt8} (hp : strcpyTo mem (pi + identSize) pluginPath = .ok data₀)
    (hpatch : patchInfo data₀ pi mtime target ver = .ok data) :
    ∃ d₁ d₂ d₃ d₄, Wrote mem data₀ (pi + 32) (pluginPath.bytes ++ [0]) ∧ Wrote data₀ d₁ (pi + 4128) (le64 mtime.toUInt64) ∧
      Wrote d₁ d₂ (pi + 4136) (target.targetArch.bytes ++ [0]) ∧ Wrote d₂ d₃ (pi + 4201) (target.targetOs.bytes ++ [0]) ∧
      Wrote d₃ d₄ (pi + 4266) [ver.toUInt8] ∧ Wrote d₄ data (pi + 4267) (target.viewerPath.bytes ++ [0]) := by
  obtain ⟨d₁, h₁, hpatch⟩ := bind_ok.mp hpatch
  obtain ⟨d₂, h₂, hpatch⟩ := bind_ok.mp hpatch
  obtain ⟨d₃, h₃, hpatch⟩ := bind_ok.mp hpatch
  obtain ⟨d₄, h₄, h₅⟩ := bind_ok.mp hpatch
  exact ⟨d₁, d₂, d₃, d₄, memcpyTo_wrote hp, memcpyTo_wrote h₁, memcpyTo_wrote h₂, memcpyTo_wrote h₃, memcpyTo_wrote h₄,
    memcpyTo_wrote h₅⟩

theorem length_terminated {n : Nat} (h : str.bytes.length < n) : (str.bytes ++ [0]).length ≤ n :=
  (List.length_append).trans_le h

/-- An installation changes no byte that is not the descriptor's. -/
theorem patch_outside {pluginPath : CString} {data₀ : List UInt8} (hpath : pluginPath.bytes.length < pathMax)
    (hfits : target.Fits) (hp : strcpyTo mem (pi + identSize) pluginPath = .ok data₀)
    (hpatch : patchInfo data₀ pi mtime target ver = .ok data) :
    data.length = mem.length ∧ ∀ i, i < pi ∨ pi + NPWPluginInfo.size ≤ i → data[i]? = mem[i]? := by
  obtain ⟨d₁, d₂, d₃, d₄, w₀, w₁, w₂, w₃, w₄, w₅⟩ := patch_wrote hp hpatch
  have hlen₀ : (pluginPath.bytes ++ [0]).length ≤ 4096 := length_terminated hpath
  have hlen₁ : (le64 mtime.toUInt64).length = 8 := rfl
  have hlen₂ : (target.targetArch.bytes ++ [0]).length ≤ 65 := length_terminated hfits.targetArch
  have hlen₃ : (target.targetOs.bytes ++ [0]).length ≤ 65 := length_terminated hfits.targetOs
  have hlen₄ : [ver.toUInt8].length = 1 := rfl
  have hlen₅ : (target.viewerPath.bytes ++ [0]).length ≤ 4096 := length_terminated hfits.viewerPath
  have hsize : NPWPluginInfo.size = 8363 := rfl
  refine ⟨?_, fun i hi => ?_⟩
  · rw [w₅.length, w₄.length, w₃.length, w₂.length, w₁.length, w₀.length]
  · rw [w₅.outside i (by omega), w₄.outside i (by omega), w₃.outside i (by omega), w₂.outside i (by omega),
      w₁.outside i (by omega), w₀.outside i (by omega)]

/-- The image for a plugin describes it at the descriptor's place. -/
theorem patch_described {pluginPath : CString} {data₀ : List UInt8} (hd : IsDescriptor b mem pi)
    (hpath : pluginPath.bytes.length < pathMax) (hfits : target.Fits)
    (hp : strcpyTo mem (pi + identSize) pluginPath = .ok data₀) (hpatch : patchInfo data₀ pi mtime target 2 = .ok data) :
    Described data pi ⟨b.ident, pluginPath, mtime, target.targetArch, target.targetOs, 2, target.viewerPath⟩ := by
  obtain ⟨d₁, d₂, d₃, d₄, w₀, w₁, w₂, w₃, w₄, w₅⟩ := patch_wrote hp hpatch
  have hident : (b.ident.bytes ++ [0]).length ≤ 32 := length_terminated b.length_ident
  have hlen₀ : (pluginPath.bytes ++ [0]).length ≤ 4096 := length_terminated hpath
  have hlen₁ : (le64 mtime.toUInt64).length = 8 := rfl
  have hlen₂ : (target.targetArch.bytes ++ [0]).length ≤ 65 := length_terminated hfits.targetArch
  have hlen₃ : (target.targetOs.bytes ++ [0]).length ≤ 65 := length_terminated hfits.targetOs
  have hlen₄ : [(2 : Int8).toUInt8].length = 1 := rfl
  refine ⟨?_, ?_, ?_, ?_, ?_, ?_, ?_⟩
  · have h₀ := w₀.there _ _ hd.ident (by omega)
    have h₁ := w₁.there _ _ h₀ (by omega)
    have h₂ := w₂.there _ _ h₁ (by omega)
    have h₃ := w₃.there _ _ h₂ (by omega)
    have h₄ := w₄.there _ _ h₃ (by omega)
    have h₅ := w₅.there _ _ h₄ (by omega)
    exact h₅
  · have h₁ := w₁.there _ _ w₀.here (by omega)
    have h₂ := w₂.there _ _ h₁ (by omega)
    have h₃ := w₃.there _ _ h₂ (by omega)
    have h₄ := w₄.there _ _ h₃ (by omega)
    have h₅ := w₅.there _ _ h₄ (by omega)
    exact h₅
  · have h₂ := w₂.there _ _ w₁.here (by omega)
    have h₃ := w₃.there _ _ h₂ (by omega)
    have h₄ := w₄.there _ _ h₃ (by omega)
    have h₅ := w₅.there _ _ h₄ (by omega)
    exact h₅
  · have h₃ := w₃.there _ _ w₂.here (by omega)
    have h₄ := w₄.there _ _ h₃ (by omega)
    have h₅ := w₅.there _ _ h₄ (by omega)
    exact h₅
  · have h₄ := w₄.there _ _ w₃.here (by omega)
    have h₅ := w₅.there _ _ h₄ (by omega)
    exact h₅
  · have h₅ := w₅.there _ _ w₄.here (by omega)
    exact h₅
  · exact w₅.here

/-- What an installation into the master wrapper's first descriptor leaves of the image. -/
theorem doInstallPlugin_described {pluginPath : CString} {pluginDir : Option CString} {pluginInfo : Option PluginTarget} {r : Installed}
    (hdlopen : host.dlopen = some handle) (hdlsym : handle.npwPlugin = some pi) (hd : IsDescriptor b host.image pi)
    (hfirst : ∀ i, identSize ≤ i → i < pi + identSize → ¬Matches b host.image b.pluginIdent.length i)
    (hpath : pluginPath.bytes.length < pathMax) (hfits : r.pluginInfo.Fits)
    (hret : doInstallPlugin b host pluginPath pluginDir pluginInfo = .ok r) :
    (r.contents.length = host.image.length ∧
      ∀ i, i < pi ∨ pi + NPWPluginInfo.size ≤ i → r.contents[i]? = host.image[i]?) ∧
    ∃ mtime info, host.stat = some mtime ∧ pluginInfo = some info ∧ completeTarget host pluginPath info = .ok r.pluginInfo ∧
      isWrapperPluginHandle handle r.contents =
        .ok (some ⟨b.ident, pluginPath, mtime, r.pluginInfo.targetArch, r.pluginInfo.targetOs, 2, r.pluginInfo.viewerPath⟩) := by
  obtain ⟨-, w, ofs, hfind, hpatch⟩ := doInstallPlugin_ok hret
  obtain ⟨handle', hdl, hw, hscan⟩ := findDescriptor_ok hfind
  obtain ⟨data₀, mtime, info, hp, hstat, hinfo, htarget, hpatch⟩ := patchImage_ok hpatch
  cases hdlopen.symm.trans hdl
  obtain ⟨hfun, pi', ident, hpi', hident, hwident, hwver⟩ := isWrapperPluginHandle_some hw
  cases hdlsym.symm.trans hpi'
  -- The master's own descriptor is the one that the scan is for.
  cases (strcpyFrom_at hd.ident b.length_ident).symm.trans hident
  have hbyte : host.image[pi + NPWPluginInfo.structVersionOfs]? = some 2 := at_iff.mp hd.structVersion 0 Nat.one_pos
  have hver : w.structVersion = 2 := by
    rw [hwver, hbyte, pluginInfoVersion, if_pos b.take_ident]
    rfl
  rw [hwident] at hscan
  have hofs : ofs = pi + identSize := scan_first hscan (Nat.le_add_left _ _) hd.matches hfirst
  rw [hofs, Nat.add_sub_cancel, hver] at hpatch
  rw [hofs] at hp
  have hdesc := patch_described hd hpath hfits hp hpatch
  have hread := isWrapperPluginHandle_described hfun hdlsym hdesc b.take_ident b.length_ident hpath hfits rfl
  exact ⟨patch_outside hpath hfits hp hpatch, mtime, info, hstat, hinfo, htarget, hread⟩

theorem install_round_trip (b : Build) (host : InstallHost) (handle : Handle) (pi : Nat) (pluginPath : CString)
    (pluginDir : Option CString) (pluginInfo : Option PluginTarget) (r : Installed) (hdlopen : host.dlopen = some handle)
    (hdlsym : handle.npwPlugin = some pi) (hd : IsDescriptor b host.image pi)
    (hfirst : ∀ i, identSize ≤ i → i < pi + identSize → ¬Matches b host.image b.pluginIdent.length i)
    (hpath : pluginPath.bytes.length < pathMax) (hfits : r.pluginInfo.Fits)
    (hret : doInstallPlugin b host pluginPath pluginDir pluginInfo = .ok r) :
    r.contents.length = host.image.length ∧
      (∀ i, i < pi ∨ pi + NPWPluginInfo.size ≤ i → r.contents[i]? = host.image[i]?) ∧
      (∃ mtime, host.stat = some mtime ∧
        isWrapperPluginHandle handle r.contents =
          .ok (some ⟨b.ident, pluginPath, mtime, r.pluginInfo.targetArch, r.pluginInfo.targetOs, 2, r.pluginInfo.viewerPath⟩)) ∧
      ∃ info, pluginInfo = some info ∧ completeTarget host pluginPath info = .ok r.pluginInfo ∧
        (info.Complete → r.pluginInfo = info) := by
  obtain ⟨⟨hlen, hout⟩, mtime, info, hstat, hinfo, htarget, hread⟩ :=
    doInstallPlugin_described hdlopen hdlsym hd hfirst hpath hfits hret
  refine ⟨hlen, hout, ⟨mtime, hstat, hread⟩, info, hinfo, htarget, fun hcomplete => ?_⟩
  rw [completeTarget_complete hcomplete] at htarget
  exact (Except.ok.inj htarget).symm

/-! ### Where nothing fails -/

theorem patchInfo_of_room (h : pi + NPWPluginInfo.size ≤ mem.length) (hfits : target.Fits) :
    ∃ data, patchInfo mem pi mtime target ver = .ok data := by
  have hlen₁ : (le64 mtime.toUInt64).length = 8 := rfl
  have hlen₂ : (target.targetArch.bytes ++ [0]).length ≤ 65 := length_terminated hfits.targetArch
  have hlen₃ : (target.targetOs.bytes ++ [0]).length ≤ 65 := length_terminated hfits.targetOs
  have hlen₄ : [ver.toUInt8].length = 1 := rfl
  have hlen₅ : (target.viewerPath.bytes ++ [0]).length ≤ 4096 := length_terminated hfits.viewerPath
  have hsize : NPWPluginInfo.size = 8363 := rfl
  have room : ∀ (m : List UInt8) ofs (bs : List UInt8), m.length = mem.length → ofs + bs.length ≤ mem.length →
      memcpyTo m ofs bs = .ok (write m ofs bs) ∧ (write m ofs bs).length = mem.length := by
    intro m ofs bs hm hb
    rw [← hm] at hb
    exact ⟨if_pos hb, (length_write hb).trans hm⟩
  obtain ⟨h₁, l₁⟩ := room mem (pi + 4128) (le64 mtime.toUInt64) rfl (by omega)
  obtain ⟨h₂, l₂⟩ := room _ (pi + 4136) (target.targetArch.bytes ++ [0]) l₁ (by omega)
  obtain ⟨h₃, l₃⟩ := room _ (pi + 4201) (target.targetOs.bytes ++ [0]) l₂ (by omega)
  obtain ⟨h₄, l₄⟩ := room _ (pi + 4266) [ver.toUInt8] l₃ (by omega)
  obtain ⟨h₅, -⟩ := room _ (pi + 4267) (target.viewerPath.bytes ++ [0]) l₄ (by omega)
  exact ⟨_, bind_ok.mpr ⟨_, h₁, bind_ok.mpr ⟨_, h₂, bind_ok.mpr ⟨_, h₃, bind_ok.mpr ⟨_, h₄, h₅⟩⟩⟩⟩⟩

/-- The system calls of an installation all succeed. -/
structure InstallHost.Succeeds (host : InstallHost) (mtime : Int64) : Prop where
  opens : host.opens = true
  lseeks : host.lseeks = true
  mallocs : host.mallocs = true
  reads : host.reads = host.image.length
  short : host.image.length ≤ readMax
  stat : host.stat = some mtime
  setsContents : host.setsContents = true

/-- A complete target goes into the first place that the scan meets, where a descriptor has room. -/
theorem install_succeeds {w : NPWPluginInfo} {pluginPath dir : CString} {base : List UInt8} (hhost : host.Succeeds mtime)
    (hdl : host.dlopen = some handle) (hw : isWrapperPluginHandle handle host.image = .ok (some w))
    (hwpath : w.path = b.defaultPluginPath) (hmatch : Matches b host.image w.ident.bytes.length (pi + identSize))
    (hfirst : ∀ i, identSize ≤ i → i < pi + identSize → ¬Matches b host.image w.ident.bytes.length i)
    (hroom : pi + NPWPluginInfo.size ≤ host.image.length) (hbase : strrchr pluginPath.bytes 47 = some base)
    (hdir : (dir.bytes ++ ascii "/npwrapper." ++ base).length < pathMax) (hpath : pluginPath.bytes.length < pathMax)
    (hcomplete : target.Complete) (hfits : target.Fits) :
    ∃ r data₀, doInstallPlugin b host pluginPath (some dir) (some target) = .ok r ∧ r.pluginInfo = target ∧
      strcpyTo host.image (pi + identSize) pluginPath = .ok data₀ ∧ patchInfo data₀ pi mtime target w.structVersion = .ok r.contents := by
  have hlen₀ : (pluginPath.bytes ++ [0]).length ≤ 4096 := length_terminated hpath
  have hsize : NPWPluginInfo.size = 8363 := rfl
  have hstr : strcpyTo host.image (pi + identSize) pluginPath = .ok (write host.image (pi + identSize) (pluginPath.bytes ++ [0])) :=
    if_pos (by rw [identSize]; omega)
  have hlen : (write host.image (pi + identSize) (pluginPath.bytes ++ [0])).length = host.image.length :=
    length_write (by rw [identSize]; omega)
  obtain ⟨data, hdata⟩ := @patchInfo_of_room _ pi target w.structVersion mtime (hlen ▸ hroom) hfits
  have hscan : scan b host.image w.ident.bytes.length (host.image.length - pathMax - identSize) identSize = some (pi + identSize) :=
    scan_of_first (Nat.le_add_left _ _) (by rw [pathMax, identSize]; omega) hmatch hfirst
  have hfind : findDescriptor b host = .ok (w, pi + identSize) := by
    have hmin : min host.reads readMax = host.image.length := by rw [hhost.reads, Nat.min_eq_left hhost.short]
    simp [findDescriptor, hdl, bind, Except.bind, hw, hwpath, hhost.opens, hhost.lseeks, hhost.mallocs, hmin, hscan]
  have hpatch : patchImage host pluginPath (some target) w.structVersion (pi + identSize) = .ok (data, target) := by
    simp [patchImage, bind, Except.bind, hstr, hhost.stat, completeTarget_complete hcomplete, hdata]
  refine ⟨⟨dir.bytes ++ ascii "/npwrapper." ++ base, data, target⟩, _, ?_, rfl, hstr, hdata⟩
  unfold doInstallPlugin
  rw [hbase]
  dsimp only
  rw [if_neg (Nat.not_le.mpr hdir)]
  simp [bind, Except.bind, hfind, hpatch, hhost.setsContents]

/-! ### A master wrapper -/

/-- The initializer of a descriptor, as it is in a file. -/
def NPWPluginInfo.bytes (info : NPWPluginInfo) : List UInt8 :=
  pad identSize info.ident.bytes ++ pad pathMax info.path.bytes ++ le64 info.mtime.toUInt64 ++
    pad targetSize info.targetArch.bytes ++ pad targetSize info.targetOs.bytes ++ [info.structVersion.toUInt8] ++
    pad pathMax info.viewerPath.bytes

theorem bytes_described {info : NPWPluginInfo} (hident : info.ident.bytes.length < identSize)
    (hpath : info.path.bytes.length < pathMax) (hfits : info.toTarget.Fits) :
    Described info.bytes 0 info ∧ info.bytes.length = NPWPluginInfo.size := by
  have harch : info.targetArch.bytes.length < targetSize := hfits.targetArch
  have hos : info.targetOs.bytes.length < targetSize := hfits.targetOs
  have hviewer : info.viewerPath.bytes.length < pathMax := hfits.viewerPath
  rw [NPWPluginInfo.bytes]
  generalize hp₁ : pad identSize info.ident.bytes = p₁
  generalize hp₂ : p₁ ++ pad pathMax info.path.bytes = p₂
  generalize hp₃ : p₂ ++ le64 info.mtime.toUInt64 = p₃
  generalize hp₄ : p₃ ++ pad targetSize info.targetArch.bytes = p₄
  generalize hp₅ : p₄ ++ pad targetSize info.targetOs.bytes = p₅
  generalize hp₆ : p₅ ++ [info.structVersion.toUInt8] = p₆
  have l₁ : p₁.length = NPWPluginInfo.pathOfs := by rw [← hp₁, length_pad hident.le]
  have l₂ : p₂.length = NPWPluginInfo.mtimeOfs := by rw [← hp₂, List.length_append, l₁, length_pad hpath.le]
  have l₃ : p₃.length = NPWPluginInfo.targetArchOfs := by rw [← hp₃, List.length_append, l₂, length_le64]
  have l₄ : p₄.length = NPWPluginInfo.targetOsOfs := by rw [← hp₄, List.length_append, l₃, length_pad harch.le]
  have l₅ : p₅.length = NPWPluginInfo.structVersionOfs := by rw [← hp₅, List.length_append, l₄, length_pad hos.le]
  have l₆ : p₆.length = NPWPluginInfo.viewerPathOfs := by rw [← hp₆, List.length_append, l₅, List.length_singleton]
  have a₁ : At p₁ 0 (info.ident.bytes ++ [0]) := hp₁ ▸ at_append_pad hident []
  have a₂ : At p₂ p₁.length (info.path.bytes ++ [0]) := hp₂ ▸ at_append_pad hpath p₁
  have a₃ : At p₃ p₂.length (le64 info.mtime.toUInt64) := by rw [← hp₃, At, List.drop_left]
  have a₄ : At p₄ p₃.length (info.targetArch.bytes ++ [0]) := hp₄ ▸ at_append_pad harch p₃
  have a₅ : At p₅ p₄.length (info.targetOs.bytes ++ [0]) := hp₅ ▸ at_append_pad hos p₄
  have a₆ : At p₆ p₅.length [info.structVersion.toUInt8] := by rw [← hp₆, At, List.drop_left]
  have a₇ : At (p₆ ++ pad pathMax info.viewerPath.bytes) p₆.length (info.viewerPath.bytes ++ [0]) := at_append_pad hviewer p₆
  have e₂ : ∀ {ofs bs}, At p₁ ofs bs → At p₂ ofs bs := fun h => hp₂ ▸ h.append_right _
  have e₃ : ∀ {ofs bs}, At p₂ ofs bs → At p₃ ofs bs := fun h => hp₃ ▸ h.append_right _
  have e₄ : ∀ {ofs bs}, At p₃ ofs bs → At p₄ ofs bs := fun h => hp₄ ▸ h.append_right _
  have e₅ : ∀ {ofs bs}, At p₄ ofs bs → At p₅ ofs bs := fun h => hp₅ ▸ h.append_right _
  have e₆ : ∀ {ofs bs}, At p₅ ofs bs → At p₆ ofs bs := fun h => hp₆ ▸ h.append_right _
  rw [l₁] at a₂
  rw [l₂] at a₃
  rw [l₃] at a₄
  rw [l₄] at a₅
  rw [l₅] at a₆
  rw [l₆] at a₇
  refine ⟨⟨?_, ?_, ?_, ?_, ?_, ?_, ?_⟩, ?_⟩
  · exact (e₆ (e₅ (e₄ (e₃ (e₂ a₁))))).append_right _
  · exact (Nat.zero_add _).symm ▸ (e₆ (e₅ (e₄ (e₃ a₂)))).append_right _
  · exact (Nat.zero_add _).symm ▸ (e₆ (e₅ (e₄ a₃))).append_right _
  · exact (Nat.zero_add _).symm ▸ (e₆ (e₅ a₄)).append_right _
  · exact (Nat.zero_add _).symm ▸ (e₆ a₅).append_right _
  · exact (Nat.zero_add _).symm ▸ a₆.append_right _
  · exact (Nat.zero_add _).symm ▸ a₇
  · rw [List.length_append, l₆, length_pad hviewer.le]

theorem Described.append {info : NPWPluginInfo} (h : Described mem pi info) (pre : List UInt8) :
    Described (pre ++ mem) (pre.length + pi) info where
  ident := h.ident.append pre
  path := by rw [Nat.add_assoc]; exact h.path.append pre
  mtime := by rw [Nat.add_assoc]; exact h.mtime.append pre
  targetArch := by rw [Nat.add_assoc]; exact h.targetArch.append pre
  targetOs := by rw [Nat.add_assoc]; exact h.targetOs.append pre
  structVersion := by rw [Nat.add_assoc]; exact h.structVersion.append pre
  viewerPath := by rw [Nat.add_assoc]; exact h.viewerPath.append pre

theorem Described.append_right {info : NPWPluginInfo} (h : Described mem pi info) (post : List UInt8) :
    Described (mem ++ post) pi info :=
  ⟨h.ident.append_right _, h.path.append_right _, h.mtime.append_right _, h.targetArch.append_right _,
    h.targetOs.append_right _, h.structVersion.append_right _, h.viewerPath.append_right _⟩

theorem At.of_eq (h : At mem ofs bs) (heq : ∀ i, ofs ≤ i → data[i]? = mem[i]?) : At data ofs bs := by
  rw [at_iff] at h ⊢
  intro i hi
  rw [heq _ (Nat.le_add_right _ _), h i hi]

/-- A descriptor behind all that changed. -/
theorem Described.of_eq {info : NPWPluginInfo} (h : Described mem pi info) (heq : ∀ i, pi ≤ i → data[i]? = mem[i]?) :
    Described data pi info where
  ident := At.of_eq h.ident heq
  path := At.of_eq h.path fun i hi => heq i (Nat.le_of_add_right_le hi)
  mtime := At.of_eq h.mtime fun i hi => heq i (Nat.le_of_add_right_le hi)
  targetArch := At.of_eq h.targetArch fun i hi => heq i (Nat.le_of_add_right_le hi)
  targetOs := At.of_eq h.targetOs fun i hi => heq i (Nat.le_of_add_right_le hi)
  structVersion := At.of_eq h.structVersion fun i hi => heq i (Nat.le_of_add_right_le hi)
  viewerPath := At.of_eq h.viewerPath fun i hi => heq i (Nat.le_of_add_right_le hi)

def release : Build where
  fullVersion := .ofBytes (ascii "1.4.4")
  defaultPluginPath := .ofBytes (ascii "/usr/lib/nspluginwrapper/npwrapper.so")
  fullVersion_fits := by decide
  defaultPluginPath_fits := by decide

def masterInfo (structVersion : Int8) : NPWPluginInfo :=
  ⟨release.ident, release.defaultPluginPath, 0, .ofBytes (ascii "linux"), .ofBytes (ascii "x86_64"), structVersion, .ofBytes []⟩

def masterHandle (pi : Nat) : Handle := ⟨true, true, true, some pi⟩

/-- All goes well with a master wrapper that has NPW_Plugin at `pi`. -/
def masterHost (image : List UInt8) (pi : Nat) : InstallHost where
  dlopen := some (masterHandle pi)
  image
  opens := true
  lseeks := true
  mallocs := true
  reads := image.length
  stat := some 1300000000
  isPluginViewerAvailable := fun _ _ => none
  setsContents := true

def flash : CString := .ofBytes (ascii "/usr/lib/flash/libflashplayer.so")

def mozillaPlugins : CString := .ofBytes (ascii "/usr/lib/mozilla/plugins")

def flashTarget : PluginTarget where
  targetArch := .ofBytes (ascii "i386")
  targetOs := .ofBytes (ascii "linux")
  viewerPath := .ofBytes (ascii "/usr/lib/nspluginwrapper/i386/linux/npviewer")

theorem flashTarget_complete : flashTarget.Complete := ⟨by decide, by decide, by decide⟩

theorem flashTarget_fits : flashTarget.Fits := ⟨by decide, by decide, by decide⟩

theorem masterInfo_fits (ver : Int8) : (masterInfo ver).toTarget.Fits :=
  (⟨by decide, by decide, by decide⟩ :
    PluginTarget.Fits ⟨.ofBytes (ascii "linux"), .ofBytes (ascii "x86_64"), .ofBytes []⟩)

theorem masterInfo_described (ver : Int8) :
    Described (masterInfo ver).bytes 0 (masterInfo ver) ∧ (masterInfo ver).bytes.length = NPWPluginInfo.size :=
  bytes_described release.length_ident release.defaultPluginPath_fits (masterInfo_fits ver)

theorem masterInfo_isDescriptor {image : List UInt8} (hroom : pi + NPWPluginInfo.size ≤ image.length)
    (h : Described image pi (masterInfo 2)) : IsDescriptor release image pi :=
  ⟨hroom, h.ident, h.path, h.structVersion⟩

theorem masterInfo_read {image : List UInt8} (h : Described image pi (masterInfo 2)) :
    isWrapperPluginHandle (masterHandle pi) image = .ok (some (masterInfo 2)) :=
  isWrapperPluginHandle_described ⟨rfl, rfl, rfl⟩ rfl h release.take_ident release.length_ident
    release.defaultPluginPath_fits (masterInfo_fits 2) rfl

/-- The patch goes to the first place that has the ident and the path. -/
theorem masterHost_installs {image : List UInt8} {first : Nat} (h : Described image pi (masterInfo 2))
    (hm : Matches release image release.ident.bytes.length (first + identSize))
    (hfirst : ∀ i, identSize ≤ i → i < first + identSize → ¬Matches release image release.ident.bytes.length i)
    (hroom : first + NPWPluginInfo.size ≤ image.length) (hshort : image.length ≤ readMax) :
    ∃ r data₀, doInstallPlugin release (masterHost image pi) flash (some mozillaPlugins) (some flashTarget) = .ok r ∧
      r.pluginInfo = flashTarget ∧ strcpyTo image (first + identSize) flash = .ok data₀ ∧
      patchInfo data₀ first 1300000000 flashTarget 2 = .ok r.contents :=
  @install_succeeds _ (masterHost image pi) (masterHandle pi) first flashTarget 1300000000 (masterInfo 2) flash mozillaPlugins
    (ascii "libflashplayer.so") ⟨rfl, rfl, rfl, rfl, hshort, rfl, rfl⟩ rfl (masterInfo_read h) rfl hm hfirst hroom (by decide)
    (by decide) (by decide) flashTarget_complete flashTarget_fits

theorem install_round_trip_flash :
    ∃ r, doInstallPlugin release (masterHost (masterInfo 2).bytes 0) flash (some mozillaPlugins) (some flashTarget) = .ok r ∧
      isWrapperPluginHandle (masterHandle 0) r.contents =
        .ok (some ⟨release.ident, flash, 1300000000, flashTarget.targetArch, flashTarget.targetOs, 2, flashTarget.viewerPath⟩) := by
  obtain ⟨hdesc, hlen⟩ := masterInfo_described 2
  have hd : IsDescriptor release (masterInfo 2).bytes 0 := masterInfo_isDescriptor (by rw [hlen, Nat.zero_add]) hdesc
  have hfirst : ∀ i, identSize ≤ i → i < 0 + identSize → ¬Matches release (masterInfo 2).bytes release.ident.bytes.length i :=
    fun i hi hlt => absurd (hlt.trans_eq (Nat.zero_add _)) (Nat.not_lt.mpr hi)
  obtain ⟨r, -, hret, htarget, -, -⟩ := masterHost_installs hdesc hd.matches hfirst (by rw [hlen, Nat.zero_add]) (by rw [hlen]; decide)
  obtain ⟨-, -, ⟨mtime, hstat, hread⟩, -⟩ := install_round_trip release (masterHost (masterInfo 2).bytes 0) (masterHandle 0) 0 flash
    _ _ r rfl rfl hd hfirst (by decide) (htarget ▸ flashTarget_fits) hret
  cases hstat
  rw [htarget] at hread
  exact ⟨r, hret, hread⟩

/-- The first letter of the ident is nowhere else in a descriptor. -/
theorem masterInfo_letter {ver : Int8} (hver : ver.toUInt8 ≠ 78) {i : Nat} (h : (masterInfo ver).bytes[i]? = some 78) : i = 0 := by
  have hbytes : (masterInfo ver).bytes = release.ident.bytes ++ (List.replicate (identSize - release.ident.bytes.length) 0 ++
      (pad pathMax release.defaultPluginPath.bytes ++ (le64 0 ++ (pad targetSize (CString.ofBytes (ascii "linux")).bytes ++
        (pad targetSize (CString.ofBytes (ascii "x86_64")).bytes ++ ([ver.toUInt8] ++ pad pathMax (CString.ofBytes []).bytes)))))) := by
    simp only [NPWPluginInfo.bytes, pad, List.append_assoc]
    rfl
  rw [hbytes] at h
  rcases Nat.lt_or_ge i release.ident.bytes.length with hi | hi
  · rw [List.getElem?_append_left hi] at h
    exact (by decide : ∀ i < release.ident.bytes.length, release.ident.bytes[i]? = some 78 → i = 0) i hi h
  · rw [List.getElem?_append_right hi] at h
    have hmem := List.mem_of_getElem? h
    simp only [List.mem_append, List.mem_singleton] at hmem
    rcases hmem with hm | hm | hm | hm | hm | hm | hm
    · exact absurd (List.eq_of_mem_replicate hm) (by decide)
    · exact absurd (mem_pad hm) (by decide)
    · exact absurd hm (by decide)
    · exact absurd (mem_pad hm) (by decide)
    · exact absurd (mem_pad hm) (by decide)
    · exact absurd hm hver.symm
    · exact absurd (mem_pad hm) (by decide)

/-- The one complete descriptor is behind one of an older kind with the same ident and path, which the scan meets
    first. -/
theorem install_round_trip_fails :
    (∀ p, IsDescriptor release ((masterInfo 1).bytes ++ (masterInfo 2).bytes) p ↔ p = NPWPluginInfo.size) ∧
      ∃ r, doInstallPlugin release (masterHost ((masterInfo 1).bytes ++ (masterInfo 2).bytes) NPWPluginInfo.size) flash
          (some mozillaPlugins) (some flashTarget) = .ok r ∧
        isWrapperPluginHandle (masterHandle NPWPluginInfo.size) r.contents = .ok (some (masterInfo 2)) := by
  obtain ⟨hold, holdlen⟩ := masterInfo_described 1
  obtain ⟨hnew, hnewlen⟩ := masterInfo_described 2
  have hfirst := hold.append_right (masterInfo 2).bytes
  have hsecond := hnew.append (masterInfo 1).bytes
  have hlen : ((masterInfo 1).bytes ++ (masterInfo 2).bytes).length = NPWPluginInfo.size + NPWPluginInfo.size := by
    rw [List.length_append, holdlen, hnewlen]
  rw [holdlen, Nat.add_zero] at hsecond
  refine ⟨fun p => ⟨fun hd => ?_, ?_⟩, ?_⟩
  · have hn : ((masterInfo 1).bytes ++ (masterInfo 2).bytes)[p]? = some 78 := at_iff.mp hd.ident 0 (by decide)
    rcases Nat.lt_or_ge p (masterInfo 1).bytes.length with hp | hp
    · rw [List.getElem?_append_left hp] at hn
      have hp0 := masterInfo_letter (by decide) hn
      rw [hp0] at hd
      have h1 := at_iff.mp hfirst.structVersion 0 Nat.one_pos
      have h2 := at_iff.mp hd.structVersion 0 Nat.one_pos
      exact absurd (h1.symm.trans h2) (by decide)
    · rw [List.getElem?_append_right hp] at hn
      have hp0 := masterInfo_letter (by decide) hn
      omega
  · rintro rfl
    exact masterInfo_isDescriptor hlen.ge hsecond
  · have hm : Matches release ((masterInfo 1).bytes ++ (masterInfo 2).bytes) release.ident.bytes.length (0 + identSize) :=
      ⟨hfirst.path.of_append, hfirst.ident.of_append⟩
    obtain ⟨r, data₀, hret, htarget, hp, hpatch⟩ := masterHost_installs hsecond hm
      (fun i hi hlt => absurd (hlt.trans_eq (Nat.zero_add _)) (Nat.not_lt.mpr hi)) (by rw [hlen]; decide) (by rw [hlen]; decide)
    obtain ⟨-, hout⟩ := patch_outside (by decide) flashTarget_fits hp hpatch
    have hkept := hsecond.of_eq fun i hi => hout i (.inr (by rw [Nat.zero_add]; exact hi))
    exact ⟨r, hret, masterInfo_read hkept⟩

end NSPluginWrapper
