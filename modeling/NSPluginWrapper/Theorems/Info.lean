import NSPluginWrapper.Plugin.Info

/-! What the wrapper reads of a plugin is what the viewer printed, for strings of one line. -/

namespace NSPluginWrapper
open Lib

/-- On one line, and no longer than a buffer that an `int` measures. -/
def CString.Readable (s : CString) : Prop := OneLine s.bytes ∧ s.bytes.length < 2 ^ 31 - 1

def PluginInfo.Readable (info : PluginInfo) : Prop := ∀ s ∈ info.strings, s.Readable

variable {info : PluginInfo} {s : CString} {tag : List UInt8} {rest line : List UInt8}

theorem cInt_lt (n : Int) : cInt n < 2 ^ 31 := Int.bmod_lt (by decide)

theorem CString.ofBytes_line {bs : List UInt8} (h : ∀ b ∈ bs, b ≠ 0) : (CString.ofBytes bs).bytes = bs :=
  congrArg CString.bytes (CString.ofBytes_bytes ⟨bs, h⟩)

/-! ### What is read is readable -/

theorem fgets_readable {n : Int} {fp : List UInt8} (h : fgets (cInt n) fp = some (line, rest)) :
    (CString.ofBytes line).Readable := by
  obtain ⟨hline, hlen, -, -⟩ := fgets_some h
  have hprefix : (CString.ofBytes line).bytes <+: line := List.takeWhile_prefix _
  have hle := hprefix.length_le
  have hmax := cInt_lt n
  exact ⟨hline.of_prefix hprefix, by omega⟩

theorem mem_strings : s ∈ info.strings ↔ info.name = some s ∨ info.description = some s ∨ info.formats = some s := by
  simp [PluginInfo.strings]

theorem PluginInfo.Readable.store (h : info.Readable) (hs : s.Readable) (tag : List UInt8) : (info.store tag s).Readable := by
  intro t ht
  rw [mem_strings] at ht
  have hold : info.name = some t ∨ info.description = some t ∨ info.formats = some t → t.Readable :=
    fun h' => h t (mem_strings.mpr h')
  rw [PluginInfo.store] at ht
  split at ht
  · rcases ht with ht | ht | ht
    · cases ht
      exact hs
    · exact hold (.inr (.inl ht))
    · exact hold (.inr (.inr ht))
  split at ht
  · rcases ht with ht | ht | ht
    · exact hold (.inl ht)
    · cases ht
      exact hs
    · exact hold (.inr (.inr ht))
  split at ht
  · rcases ht with ht | ht | ht
    · exact hold (.inl ht)
    · exact hold (.inr (.inl ht))
    · cases ht
      exact hs
  · exact hold ht

theorem readInfo_readable {fp : List UInt8} (h : info.Readable) : (readInfo fp info).Readable := by
  fun_induction readInfo fp info with
  | case1 => exact h
  | case2 => rename_i ih; exact ih h
  | case3 => rename_i ih; exact ih h
  | case4 => rename_i ih; exact ih h
  | case5 => rename_i ih; exact ih h
  | case6 => rename_i hstr ih; exact ih (h.store (fgets_readable hstr) _)

theorem readInfo_unset_readable (fp : List UInt8) : (readInfo fp .unset).Readable := by
  apply readInfo_readable
  intro s hs
  rcases mem_strings.mp hs with h | h | h <;> cases h

/-! ### What is printed is read -/

/-- A tag that a line has room for. -/
structure IsTag (tag : List UInt8) : Prop where
  ne_nil : tag ≠ []
  word : ∀ b ∈ tag, isSpace b = false ∧ b ≠ 0
  short : tag.length < 240

/-- The line before a string, and the string. -/
theorem readInfo_tag (htag : IsTag tag) {n : Nat} (hn : n < 2 ^ 31) {str rest' : List UInt8}
    (hstr : fgets (cInt (n + 1)) rest = some (str, rest')) :
    readInfo (tag ++ blank :: decimal n ++ newline :: rest) info = readInfo rest' (info.store tag (CString.ofBytes str)) := by
  have hspace : ∀ b ∈ tag ++ blank :: decimal n, b ≠ newline ∧ b ≠ 0 := by
    intro b hb
    rcases List.mem_append.mp hb with hb | hb
    · refine ⟨?_, (htag.word b hb).2⟩
      rintro rfl
      exact absurd ((htag.word _ hb).1) (by decide)
    rcases List.mem_cons.mp hb with rfl | hb
    · decide
    · refine ⟨(mem_decimal hb).2.2, ?_⟩
      rintro rfl
      exact absurd (mem_decimal hb).1 (by decide)
  have hlen : (decimal n).length ≤ 10 := (length_decimal_le (by decide)).mpr (by omega)
  have hline : fgets lineSize (tag ++ blank :: decimal n ++ newline :: rest) =
      some (tag ++ blank :: decimal n ++ [newline], rest) := by
    apply fgets_line fun h => (hspace _ h).1 rfl
    have := htag.short
    simp only [List.length_append, List.length_cons, lineSize]
    omega
  have hbytes : (CString.ofBytes (tag ++ blank :: decimal n ++ [newline])).bytes = tag ++ blank :: decimal n ++ [newline] := by
    apply CString.ofBytes_line
    intro b hb
    rcases List.mem_append.mp hb with hb | hb
    · exact (hspace b hb).2
    · rw [List.mem_singleton.mp hb]
      decide
  have hscan := scanWordInt_decimal htag.ne_nil (fun b hb => (htag.word b hb).1) hn
  rw [readInfo]
  split
  · rename_i h
    rw [hline] at h
    cases h
  rename_i h
  rw [hline] at h
  cases h
  simp only [hbytes]
  rw [if_neg (List.append_ne_nil_of_right_ne_nil _ (List.cons_ne_nil _ _)), if_neg (not_not_intro List.getLast?_concat),
    List.dropLast_concat]
  split
  · rename_i h
    rw [hscan] at h
    cases h
  rename_i h
  rw [hscan] at h
  cases h
  split
  · rename_i h
    rw [hstr] at h
    cases h
  rename_i h
  rw [hstr] at h
  cases h
  rfl

/-- What is left of the line of a string. -/
theorem readInfo_newline : readInfo (newline :: rest) info = readInfo rest info := by
  have hline : fgets lineSize (newline :: rest) = some ([newline], rest) :=
    @fgets_line rest [] lineSize List.not_mem_nil (by decide)
  rw [readInfo]
  split
  · rename_i h
    rw [hline] at h
    cases h
  rename_i h
  rw [hline] at h
  cases h
  rfl

theorem readInfo_nil : readInfo [] info = info := by
  rw [readInfo]
  rfl

theorem readInfo_printInfo {tag : String} (htag : IsTag (ascii tag)) (hs : s.Readable) (rest : List UInt8) :
    readInfo (PluginLibrary.printInfo tag (some s) ++ rest) info = readInfo rest (info.store (ascii tag) s) := by
  obtain ⟨hline, hlen⟩ := hs
  have hsize : cInt (s.bytes.length + 1) = s.bytes.length + 1 := Int.bmod_eq_of_le (by omega) (by omega)
  have hstr : fgets (cInt (s.bytes.length + 1)) (s.bytes ++ newline :: rest) = some (s.bytes, newline :: rest) := by
    rw [hsize, fgets_length hline (List.cons_ne_nil _ _)]
  have happ : PluginLibrary.printInfo tag (some s) ++ rest =
      ascii tag ++ blank :: decimal s.bytes.length ++ newline :: (s.bytes ++ newline :: rest) := by
    simp [PluginLibrary.printInfo]
  rw [happ, readInfo_tag htag (by omega) hstr, readInfo_newline, CString.ofBytes_bytes]

theorem isTag_of_all (hne : tag ≠ []) (hall : (tag.all fun b => !isSpace b && b != 0) = true) (hlen : tag.length < 240) :
    IsTag tag := ⟨hne, fun b hb => by simpa using List.all_eq_true.mp hall b hb, hlen⟩

theorem isTag_name : IsTag (ascii "PLUGIN_NAME") := isTag_of_all nofun rfl (by decide)
theorem isTag_desc : IsTag (ascii "PLUGIN_DESC") := isTag_of_all nofun rfl (by decide)
theorem isTag_mime : IsTag (ascii "PLUGIN_MIME") := isTag_of_all nofun rfl (by decide)

/-- A string that is absent is printed as nothing. -/
theorem readInfo_printInfo? {tag : String} (htag : IsTag (ascii tag)) {str : Option CString}
    (hs : ∀ s ∈ str, s.Readable) (rest : List UInt8) :
    readInfo (PluginLibrary.printInfo tag str ++ rest) info =
      readInfo rest (str.elim info (info.store (ascii tag))) := by
  cases str with
  | none => rfl
  | some s => exact readInfo_printInfo htag (hs s rfl) rest

theorem doInfo_readable (p : PluginLibrary) (h : p.doTest = 0) (hread : p.info.Readable) :
    readInfo p.doInfo.2 .unset = p.info := by
  have hname : ∀ s ∈ p.value .pluginNameString, s.Readable := fun s hs => hread s (mem_strings.mpr (.inl hs))
  have hdesc : ∀ s ∈ p.value .pluginDescriptionString, s.Readable := fun s hs => hread s (mem_strings.mpr (.inr (.inl hs)))
  have hmime : ∀ s ∈ p.gNPGetMIMEDescription, s.Readable := fun s hs => hread s (mem_strings.mpr (.inr (.inr hs)))
  rw [PluginLibrary.doInfo, if_neg (not_not_intro h)]
  simp only [List.append_assoc]
  rw [readInfo_printInfo? isTag_name hname, readInfo_printInfo? isTag_desc hdesc, ← List.append_nil (PluginLibrary.printInfo _ _),
    readInfo_printInfo? isTag_mime hmime, readInfo_nil, PluginLibrary.info]
  cases p.value .pluginNameString <;> cases p.value .pluginDescriptionString <;> cases p.gNPGetMIMEDescription <;> rfl

/-! ### The round trip -/

/-- The strings that the viewer prints come back as they are exactly where each of them is on one line and short
    enough. -/
theorem info_round_trip (p : PluginLibrary) (h : p.doTest = 0) :
    readInfo p.doInfo.2 .unset = p.info ↔ p.info.Readable := by
  constructor
  · intro heq
    rw [← heq]
    exact readInfo_unset_readable _
  · exact doInfo_readable p h

/-- A plugin with a name and MIME types. -/
def PluginLibrary.named (name formats : CString) : PluginLibrary where
  npGetMIMEDescription := some (some formats)
  npGetValue := some fun
    | .pluginNameString => (NPError.noError, some name)
    | .pluginDescriptionString => (NPError.genericError, none)
  npInitialize := true
  npShutdown := true

theorem info_round_trip_named :
    (PluginLibrary.named (.ofBytes (ascii "Flash")) (.ofBytes (ascii "a:b:c"))).doTest = 0 ∧
      readInfo (PluginLibrary.named (.ofBytes (ascii "Flash")) (.ofBytes (ascii "a:b:c"))).doInfo.2 .unset =
        ⟨some (.ofBytes (ascii "Flash")), none, some (.ofBytes (ascii "a:b:c"))⟩ := by
  have htest : (PluginLibrary.named (.ofBytes (ascii "Flash")) (.ofBytes (ascii "a:b:c"))).doTest = 0 := by decide
  refine ⟨htest, (info_round_trip _ htest).mpr fun s hs => ?_⟩
  rcases mem_strings.mp hs with h | h | h
  · cases h
    exact ⟨by decide, by decide⟩
  · cases h
  · cases h
    exact ⟨by decide, by decide⟩

/-- A name of two lines. -/
theorem info_round_trip_fails :
    (PluginLibrary.named (.ofBytes (ascii "Flash\nPlayer")) (.ofBytes (ascii "a:b:c"))).doTest = 0 ∧
      readInfo (PluginLibrary.named (.ofBytes (ascii "Flash\nPlayer")) (.ofBytes (ascii "a:b:c"))).doInfo.2 .unset ≠
        ⟨some (.ofBytes (ascii "Flash\nPlayer")), none, some (.ofBytes (ascii "a:b:c"))⟩ := by
  refine ⟨by decide, fun heq => ?_⟩
  have hread := readInfo_unset_readable (PluginLibrary.named (.ofBytes (ascii "Flash\nPlayer")) (.ofBytes (ascii "a:b:c"))).doInfo.2
  rw [heq] at hread
  have hname := hread _ (mem_strings.mpr (.inl rfl))
  exact absurd hname.1 (by decide)

end NSPluginWrapper
