import NSPluginWrapper.Lib.Fallible
import NSPluginWrapper.Theorems.Config

/-! In automatic mode the program goes through all directories: what `--remove` leaves, and what `--list` prints. -/

namespace NSPluginWrapper
open Lib

namespace OptionCallback

/-- What a flag sets, and whether it is one. -/
def flag : OptionCallback → Option (ConfigFlags → ConfigFlags)
  | .verbose => some fun flags => { flags with verbose := true }
  | .auto => some fun flags => { flags with auto := true }
  | .native => some fun flags => { flags with allowNative := true }
  | .help | .list | .update | .install | .remove => none

end OptionCallback

namespace Config

/-! ### Flags -/

/-- What an argument names. -/
def callback (arg : List UInt8) : Option OptionCallback := (configOptions.find? (·.isNamed arg)).map (·.processCallback)

def IsFlag (arg : List UInt8) : Prop := ∃ f, (callback arg).bind OptionCallback.flag = some f

/-- What is set by an argument. -/
def setFlag (flags : ConfigFlags) (arg : List UInt8) : ConfigFlags := (((callback arg).bind OptionCallback.flag).getD id) flags

def setFlags (args : List (List UInt8)) : ConfigFlags := args.foldl setFlag ⟨false, false, false⟩

section
variable {ι : Type} [DecidableEq ι] {dirs : PluginDirs ι} {b : Build} {host : ConfigHost} {c : Config ι}
  {args fs rest : List (List UInt8)} {arg : List UInt8}

theorem terminal_iff : ∀ opt ∈ configOptions, opt.terminal = opt.processCallback.flag.isNone := by
  intro opt hopt
  simp only [configOptions, List.mem_cons, List.not_mem_nil, or_false] at hopt
  rcases hopt with rfl | rfl | rfl | rfl | rfl | rfl | rfl | rfl
  all_goals rfl

theorem callback_some {cb : OptionCallback} (h : callback arg = some cb) :
    ∃ opt ∈ configOptions, configOptions.find? (·.isNamed arg) = some opt ∧ opt.processCallback = cb := by
  obtain ⟨opt, hopt, rfl⟩ := Option.map_eq_some_iff.mp h
  exact ⟨opt, List.mem_of_find?_eq_some hopt, hopt, rfl⟩

theorem processCallback_flag {cb : OptionCallback} {f : ConfigFlags → ConfigFlags} (h : cb.flag = some f) :
    processCallback dirs b host cb args c = (.ok 0, { c with flags := f c.flags }) := by
  cases cb with
  | verbose | auto | native =>
    cases h
    rfl
  | help | list | update | install | remove => cases h

theorem processOptions_flag (harg : IsFlag arg) :
    processOptions dirs b host (arg :: args) c = processOptions dirs b host args { c with flags := setFlag c.flags arg } := by
  obtain ⟨f, hf⟩ := harg
  obtain ⟨cb, hcb, hflag⟩ := Option.bind_eq_some_iff.mp hf
  obtain ⟨opt, hmem, hfind, rfl⟩ := callback_some hcb
  have hterminal : opt.terminal = false := by
    rw [terminal_iff opt hmem, hflag]
    rfl
  rw [processOptions, hfind, setFlag, hf]
  simp [processCallback_flag hflag, hterminal]

/-- A command is told what flags come before it. -/
theorem processOptions_flags (hfs : ∀ f ∈ fs, IsFlag f) :
    processOptions dirs b host (fs ++ args) c = processOptions dirs b host args { c with flags := fs.foldl setFlag c.flags } := by
  induction fs generalizing c with
  | nil => rfl
  | cons f fs ih =>
    obtain ⟨hf, hfs⟩ := List.forall_mem_cons.mp hfs
    rw [List.cons_append, processOptions_flag hf, ih hfs, List.foldl_cons]

/-- And the command ends the program. -/
theorem processOptions_command {cb : OptionCallback} (harg : callback arg = some cb) (hcb : cb.flag = none) :
    processOptions dirs b host (arg :: rest) c = processCallback dirs b host cb rest c := by
  obtain ⟨opt, hmem, hfind, rfl⟩ := callback_some harg
  have hterminal : opt.terminal = true := by
    rw [terminal_iff opt hmem, hcb]
    rfl
  rw [processOptions, hfind]
  dsimp only
  rcases processCallback dirs b host opt.processCallback rest c with ⟨r, c'⟩
  cases r with
  | error e => rfl
  | ok ret => simp [hterminal]

theorem dash_of_callback {cb : OptionCallback} (h : callback arg = some cb) : arg.head? = some dash := by
  obtain ⟨opt, -, hfind, -⟩ := callback_some h
  have hnamed := List.find?_some hfind
  simp only [ConfigOption.isNamed, Bool.or_eq_true, beq_iff_eq] at hnamed
  rcases hnamed with rfl | rfl
  · rfl
  · rfl

theorem main_command {cb : OptionCallback} (hfs : ∀ f ∈ fs, IsFlag f) (harg : callback arg = some cb) (hcb : cb.flag = none)
    (files : PluginFiles ι) : main dirs b host (fs ++ arg :: rest) files =
      processCallback dirs b host cb rest { started files with flags := setFlags fs } := by
  have hoptions : processOptions dirs b host (fs ++ arg :: rest) (started files) =
      processCallback dirs b host cb rest { started files with flags := setFlags fs } := by
    rw [processOptions_flags hfs, processOptions_command harg hcb]
    rfl
  rw [← hoptions]
  cases fs with
  | nil =>
    rw [List.nil_append, main.eq_def]
    exact if_neg (not_not_intro (dash_of_callback harg))
  | cons f fs =>
    obtain ⟨⟨set, hset⟩, -⟩ := List.forall_mem_cons.mp hfs
    obtain ⟨cb', hcb', -⟩ := Option.bind_eq_some_iff.mp hset
    rw [List.cons_append, main.eq_def]
    exact if_neg (not_not_intro (dash_of_callback hcb'))

end

theorem setFlag_auto {flags : ConfigFlags} {arg : List UInt8} (h : flags.auto = true ∨ callback arg = some .auto) :
    (setFlag flags arg).auto = true := by
  rcases h with h | h
  · rw [setFlag]
    cases hcb : callback arg with
    | none => exact h
    | some cb => cases cb <;> first | exact h | rfl
  · rw [setFlag, h]
    rfl

theorem foldl_auto {fs : List (List UInt8)} {flags : ConfigFlags} (h : flags.auto = true ∨ ∃ f ∈ fs, callback f = some .auto) :
    (fs.foldl setFlag flags).auto = true := by
  induction fs generalizing flags with
  | nil => simpa using h
  | cons f fs ih =>
    refine ih ?_
    rcases h with h | ⟨g, hg, hauto⟩
    · exact .inl (setFlag_auto (.inl h))
    · rcases List.mem_cons.mp hg with rfl | hg
      · exact .inl (setFlag_auto (.inr hauto))
      · exact .inr ⟨g, hg, hauto⟩

theorem setFlags_auto {fs : List (List UInt8)} (h : ∃ f ∈ fs, callback f = some .auto) : (setFlags fs).auto = true :=
  foldl_auto (.inr h)

/-- A loop that is not left. -/
theorem finish_none {ι : Type} {r : Option ConfigEnd × Config ι} (h : r.1 = none) : (finish r).1 = .ok 0 := by
  rcases r with ⟨e, c⟩
  cases h
  rfl

/-! ### Removing everything -/

section
variable {ι : Type} [DecidableEq ι] {dirs : PluginDirs ι} {b : Build} {host : ConfigHost} {c : Config ι}
  {entries : List (List UInt8 × Encounter)} {entry : List UInt8 × Encounter} {files : PluginFiles ι} {e : ι}

/-- A path that was come to leads to a wrapper, and unlink() lets it go. -/
def IsRemoved (dirs : PluginDirs ι) (host : ConfigHost) (entries : List (List UInt8 × Encounter)) (files : PluginFiles ι) (e : ι) : Prop :=
  ∃ entry ∈ entries, entry.2.steps.unlinks = true ∧ entry.1 ∉ host.masterPluginPaths ∧ dirs.resolve entry.1 = e ∧
    (dirs.isWrapperPlugin files entry.1).isSome

omit [DecidableEq ι] in
theorem IsRemoved.congr {files' : PluginFiles ι} (heq : files e = files' e) (h : IsRemoved dirs host entries files e) :
    IsRemoved dirs host entries files' e := by
  obtain ⟨entry, hentry, hunlinks, hmaster, rfl, hw⟩ := h
  exact ⟨entry, hentry, hunlinks, hmaster, rfl, by rwa [← isWrapperPlugin_congr heq]⟩

/-- One entry: its wrapper goes, or nothing happens. -/
theorem autoRemove_cases (dirs : PluginDirs ι) (host : ConfigHost) (entry : List UInt8 × Encounter) (c : Config ι) :
    (autoRemove dirs host entry.1 entry.2 c).1 = none ∧
      (IsRemoved dirs host [entry] c.files.files (dirs.resolve entry.1) ∧
          (autoRemove dirs host entry.1 entry.2 c).2.files.files = Function.update c.files.files (dirs.resolve entry.1) none ∨
        ¬IsRemoved dirs host [entry] c.files.files (dirs.resolve entry.1) ∧
          (autoRemove dirs host entry.1 entry.2 c).2.files.files = c.files.files) := by
  rw [autoRemove]
  cases hw : isWrapperPlugin0 dirs host c entry.1 with
  | none =>
    refine ⟨rfl, .inr ⟨?_, rfl⟩⟩
    rintro ⟨entry', hmem, -, hmaster, -, hsome⟩
    cases List.mem_singleton.mp hmem
    obtain ⟨info, hinfo⟩ := Option.isSome_iff_exists.mp hsome
    rw [isWrapperPlugin0_some.mpr ⟨hinfo, hmaster⟩] at hw
    cases hw
  | some info =>
    obtain ⟨hinfo, hmaster⟩ := isWrapperPlugin0_some.mp hw
    refine ⟨rfl, ?_⟩
    dsimp only
    rw [ignoreReturn_files, PluginDirs.removePlugin]
    cases hunlinks : entry.2.steps.unlinks with
    | false =>
      refine .inr ⟨?_, rfl⟩
      rintro ⟨entry', hmem, hyes, -⟩
      cases List.mem_singleton.mp hmem
      rw [hunlinks] at hyes
      cases hyes
    | true =>
      exact .inl ⟨⟨entry, List.mem_singleton_self _, hunlinks, hmaster, rfl, by rw [hinfo]; rfl⟩, rfl⟩

omit [DecidableEq ι] in
theorem isRemoved_cons : IsRemoved dirs host (entry :: entries) files e ↔
    IsRemoved dirs host [entry] files e ∨ IsRemoved dirs host entries files e := by
  simp only [IsRemoved, List.exists_mem_cons_iff, List.not_mem_nil, false_and, exists_false, or_false]

omit [DecidableEq ι] in
theorem IsRemoved.resolve (h : IsRemoved dirs host [entry] files e) : dirs.resolve entry.1 = e := by
  obtain ⟨entry', hmem, -, -, heq, -⟩ := h
  cases List.mem_singleton.mp hmem
  exact heq

/-- After one entry, a file is gone, or is what it was. -/
theorem autoRemove_file (dirs : PluginDirs ι) (host : ConfigHost) (entry : List UInt8 × Encounter) (c : Config ι) (e : ι) :
    IsRemoved dirs host [entry] c.files.files e ∧ (autoRemove dirs host entry.1 entry.2 c).2.files.files e = none ∨
      ¬IsRemoved dirs host [entry] c.files.files e ∧ (autoRemove dirs host entry.1 entry.2 c).2.files.files e = c.files.files e := by
  obtain ⟨-, ⟨hr, hfiles⟩ | ⟨hr, hfiles⟩⟩ := autoRemove_cases dirs host entry c
  · by_cases he : e = dirs.resolve entry.1
    · subst he
      exact .inl ⟨hr, by rw [hfiles, Function.update_self]⟩
    · exact .inr ⟨fun h => he h.resolve.symm, by rw [hfiles, Function.update_of_ne he]⟩
  · refine .inr ⟨fun h => hr ?_, by rw [hfiles]⟩
    have heq := h.resolve
    subst heq
    exact h

theorem runEach_autoRemove (dirs : PluginDirs ι) (host : ConfigHost) (entries : List (List UInt8 × Encounter)) (c : Config ι) (e : ι) :
    let r := runEach (fun entry => autoRemove dirs host entry.1 entry.2) entries c
    r.1 = none ∧ (IsRemoved dirs host entries c.files.files e → r.2.files.files e = none) ∧
      (¬IsRemoved dirs host entries c.files.files e → r.2.files.files e = c.files.files e) := by
  induction entries generalizing c with
  | nil =>
    refine ⟨rfl, ?_, fun _ => rfl⟩
    rintro ⟨entry, hentry, -⟩
    cases hentry
  | cons entry entries ih =>
    obtain ⟨hnone, -⟩ := autoRemove_cases dirs host entry c
    have hstep : autoRemove dirs host entry.1 entry.2 c = (none, (autoRemove dirs host entry.1 entry.2 c).2) := by rw [← hnone]
    have hrun : runEach (fun entry : List UInt8 × Encounter => autoRemove dirs host entry.1 entry.2) (entry :: entries) c =
        runEach (fun entry => autoRemove dirs host entry.1 entry.2) entries (autoRemove dirs host entry.1 entry.2 c).2 :=
      runEach_cons_none hstep
    obtain ⟨hend, hgone, hkept⟩ := ih (autoRemove dirs host entry.1 entry.2 c).2
    rw [hrun]
    refine ⟨hend, fun hr => ?_, fun hr => ?_⟩
    · by_cases hlater : IsRemoved dirs host entries (autoRemove dirs host entry.1 entry.2 c).2.files.files e
      · exact hgone hlater
      · obtain ⟨-, hfile⟩ | ⟨hnot, hfile⟩ := autoRemove_file dirs host entry c e
        · exact (hkept hlater).trans hfile
        · exact absurd (((isRemoved_cons.mp hr).resolve_left hnot).congr hfile.symm) hlater
    · obtain ⟨hnow, -⟩ | ⟨-, hfile⟩ := autoRemove_file dirs host entry c e
      · exact absurd (isRemoved_cons.mpr (.inl hnow)) hr
      · exact (hkept fun hlater => hr (isRemoved_cons.mpr (.inr (hlater.congr hfile)))).trans hfile

end

end Config

/-- `--auto --remove`, with other flags and whatever comes after it: exactly the wrappers that a path of a directory
    leads to go, where unlink() lets them. -/
theorem auto_remove_exact {ι : Type} [DecidableEq ι] (dirs : PluginDirs ι) (b : Build) (host : ConfigHost) (files : PluginFiles ι)
    (flags rest : List (List UInt8)) (command : List UInt8) (hflags : ∀ f ∈ flags, Config.IsFlag f)
    (hauto : ∃ f ∈ flags, Config.callback f = some .auto) (hcommand : Config.callback command = some .remove) :
    (Config.main dirs b host (flags ++ command :: rest) files).1 = .ok 0 ∧ ∀ e,
      (Config.IsRemoved dirs host (Config.listed dirs host) files e →
        (Config.main dirs b host (flags ++ command :: rest) files).2.files.files e = none) ∧
      (¬Config.IsRemoved dirs host (Config.listed dirs host) files e →
        (Config.main dirs b host (flags ++ command :: rest) files).2.files.files e = files e) := by
  have hmain : Config.main dirs b host (flags ++ command :: rest) files =
      Config.finish (runEach (fun entry => Config.autoRemove dirs host entry.1 entry.2) (Config.listed dirs host)
        { Config.started files with flags := Config.setFlags flags }) := by
    rw [Config.main_command hflags hcommand rfl, Config.processCallback, Config.processRemove, Config.processArgs,
      if_pos (Config.setFlags_auto hauto), Config.autoPass_eq]
  have hrun := Config.runEach_autoRemove dirs host (Config.listed dirs host)
    { Config.started files with flags := Config.setFlags flags }
  rw [hmain, Config.finish_files]
  exact ⟨Config.finish_none (runEach_none (fun entry _ c => (Config.autoRemove_cases dirs host entry c).1) _), fun e => (hrun e).2⟩

theorem userHost_listed : Config.listed PluginDirs.rootDirs userHost = [(userWrapper, wrapperEncounter)] := rfl

theorem userFiles_wrapper : PluginDirs.rootDirs.isWrapperPlugin userFiles userWrapper = some (masterInfo 2) := rfl

theorem auto_remove_exact_once :
    (Config.main PluginDirs.rootDirs release userHost [ascii "-v", ascii "--auto", ascii "-r"] userFiles).2.files.files userWrapper = none := by
  refine ((auto_remove_exact PluginDirs.rootDirs release userHost userFiles [ascii "-v", ascii "--auto"] [] (ascii "-r") ?_
    ⟨ascii "--auto", by decide, by decide⟩ (by decide)).2 userWrapper).1 ?_
  · intro f hf
    simp only [List.mem_cons, List.not_mem_nil, or_false] at hf
    rcases hf with rfl | rfl
    · exact ⟨_, rfl⟩
    · exact ⟨_, rfl⟩
  · rw [userHost_listed]
    exact ⟨_, List.mem_singleton_self _, rfl, List.not_mem_nil, rfl, by rw [userFiles_wrapper]; rfl⟩

/-! ### Listing -/

/-- What is_wrapper_plugin() reads out of some library. -/
def NPWPluginInfo.IsRead (info : NPWPluginInfo) : Prop := ∃ handle mem, isWrapperPluginHandle handle mem = .ok (some info)

/-- A version of two or more is only taken from a library that says that it has one. -/
theorem NPWPluginInfo.IsRead.ident {info : NPWPluginInfo} (h : info.IsRead) (hversion : 2 ≤ info.structVersion.toInt) :
    info.ident.bytes.take 6 = ascii "NPW:X:" := by
  obtain ⟨handle, mem, hread⟩ := h
  rw [isWrapperPluginHandle] at hread
  split at hread
  · cases hread
  split at hread
  · cases hread
  obtain ⟨ident, -, hread⟩ := bind_ok.mp hread
  obtain ⟨path, -, hread⟩ := bind_ok.mp hread
  obtain ⟨targetArch, -, hread⟩ := bind_ok.mp hread
  obtain ⟨targetOs, -, hread⟩ := bind_ok.mp hread
  obtain ⟨viewerPath, -, hread⟩ := bind_ok.mp hread
  cases hread
  rw [pluginInfoVersion] at hversion
  by_contra hident
  rw [if_neg hident] at hversion
  split at hversion
  · exact absurd hversion (show ¬2 ≤ (Int8.ofInt 1).toInt by decide)
  · exact absurd hversion (show ¬2 ≤ (Int8.ofInt 0).toInt by decide)

namespace Config

theorem strtok_ident {ident : List UInt8} (h : ident.take 6 = ascii "NPW:X:") :
    ∃ tokens, strtok ident = ascii "NPW" :: ascii "X" :: tokens := by
  have hsplit : ident = ascii "NPW" ++ colon :: (ascii "X" ++ colon :: ident.drop 6) := by
    conv_lhs => rw [← List.take_append_drop 6 ident, h]
    rfl
  refine ⟨strtok (ident.drop 6), ?_⟩
  have hnpw : colon ∉ ascii "NPW" := by decide
  have hx : colon ∉ ascii "X" := by decide
  conv_lhs => rw [hsplit]
  rw [strtok, List.splitOn_append_cons_self_of_not_mem hnpw, List.splitOn_append_cons_self_of_not_mem hx]
  rfl

theorem listIdent_ok {info : NPWPluginInfo} (h : info.IsRead) : ∃ version, listIdent info = .ok version := by
  by_cases htwo : 2 ≤ info.structVersion.toInt
  · obtain ⟨tokens, htokens⟩ := strtok_ident (h.ident htwo)
    have hx : (ascii "X").head? = some 88 := rfl
    exact ⟨versionString tokens, by rw [listIdent, htokens]; simp [listVersion, htwo, hx]⟩
  · rw [listIdent]
    cases strtok info.ident.bytes with
    | nil => exact ⟨[], rfl⟩
    | cons str tokens =>
      by_cases hnpw : str = ascii "NPW"
      · exact ⟨versionString tokens, by simp [hnpw, listVersion, htwo]⟩
      · exact ⟨[], by simp [hnpw]⟩

/-- A wrapper that could be read can be listed. -/
theorem listPluginLines_ok {info : NPWPluginInfo} (h : info.IsRead) (pluginPath : List UInt8) :
    ∃ lines, listPluginLines pluginPath info = .ok lines := by
  obtain ⟨version, hversion⟩ := listIdent_ok h
  exact ⟨_, map_eq_ok.mpr ⟨version, hversion, rfl⟩⟩

section
variable {ι : Type} {dirs : PluginDirs ι} {host : ConfigHost} {c : Config ι}

/-- What is printed for a path. -/
def lines (dirs : PluginDirs ι) (host : ConfigHost) (c : Config ι) (pluginPath : List UInt8) : List (List UInt8) :=
  (isWrapperPlugin0 dirs host c pluginPath).elim [] fun info => (listPluginLines pluginPath info).toOption.getD []

/-- Every wrapper that there is could be read. -/
def AllRead (files : PluginFiles ι) : Prop := ∀ e file info, files e = some file → file.descriptor = some info → info.IsRead

theorem isWrapperPlugin_isRead {files : PluginFiles ι} {path : List UInt8} {info : NPWPluginInfo} (h : AllRead files)
    (hw : dirs.isWrapperPlugin files path = some info) : info.IsRead := by
  obtain ⟨file, hfile, hinfo⟩ := Option.bind_eq_some_iff.mp hw
  rw [PluginDirs.file] at hfile
  split at hfile
  · exact h _ file info hfile hinfo
  · cases hfile

theorem listPlugin_eq (h : AllRead c.files.files) (path : List UInt8) (e : Encounter) :
    listPlugin dirs host path e c = (none, { c with printed := c.printed ++ lines dirs host c path }) := by
  rw [listPlugin, lines]
  cases hw : isWrapperPlugin0 dirs host c path with
  | none => simp
  | some info =>
    obtain ⟨found, hfound⟩ := listPluginLines_ok (isWrapperPlugin_isRead h (isWrapperPlugin0_some.mp hw).1) path
    simp [hfound, Except.toOption]

/-- Everything that is come to is listed, in that order. -/
theorem runEach_listPlugin (entries : List (List UInt8 × Encounter)) (h : AllRead c.files.files) :
    runEach (fun entry => listPlugin dirs host entry.1 entry.2) entries c =
      (none, { c with printed := c.printed ++ entries.flatMap fun entry => lines dirs host c entry.1 }) := by
  induction entries generalizing c with
  | nil => simp
  | cons entry entries ih =>
    have hrun : runEach (fun entry : List UInt8 × Encounter => listPlugin dirs host entry.1 entry.2) (entry :: entries) c =
        runEach (fun entry => listPlugin dirs host entry.1 entry.2) entries { c with printed := c.printed ++ lines dirs host c entry.1 } :=
      runEach_cons_none (listPlugin_eq h entry.1 entry.2)
    rw [hrun]
    refine (ih (c := { c with printed := c.printed ++ lines dirs host c entry.1 }) h).trans ?_
    simp [lines, isWrapperPlugin0]

end

end Config

/-- `--list`, with any flags: all wrappers that a path of a directory leads to, whatever was made by which version. -/
theorem list_completes {ι : Type} [DecidableEq ι] (dirs : PluginDirs ι) (b : Build) (host : ConfigHost) (files : PluginFiles ι)
    (flags rest : List (List UInt8)) (command : List UInt8) (hread : Config.AllRead files)
    (hflags : ∀ f ∈ flags, Config.IsFlag f) (hcommand : Config.callback command = some .list) :
    Config.main dirs b host (flags ++ command :: rest) files = (.ok 0, { Config.started files with
      flags := Config.setFlags flags
      printed := (Config.listed dirs host).flatMap fun entry => Config.lines dirs host (Config.started files) entry.1 }) := by
  rw [Config.main_command hflags hcommand rfl, Config.processCallback, Config.processList, Config.autoPass_eq,
    Config.runEach_listPlugin _ hread]
  rfl

theorem userFiles_read : Config.AllRead userFiles := by
  intro e file info hfile hinfo
  rw [userFiles] at hfile
  split at hfile
  · cases hfile
    cases hinfo
    exact ⟨masterHandle 0, _, masterInfo_read (masterInfo_described 2).1⟩
  · cases hfile

theorem list_completes_once :
    (Config.main PluginDirs.rootDirs release userHost [ascii "-l"] userFiles).2.printed = [userWrapper,
      ascii "  Original plugin: /usr/lib/nspluginwrapper/npwrapper.so", ascii "  Wrapper version string: 1.4.4"] := by
  have hlist := list_completes PluginDirs.rootDirs release userHost userFiles [] [] (ascii "-l") userFiles_read (by simp) (by decide)
  rw [List.nil_append] at hlist
  rw [hlist]
  rfl

end NSPluginWrapper
