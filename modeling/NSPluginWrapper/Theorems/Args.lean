import NSPluginWrapper.Rpc.Args
import NSPluginWrapper.Theorems.Message

/-! Argument lists come across: what `rpc_message_send_args` writes, `rpc_message_recv_args` reads back, for
    every list whose lengths an `int` holds and whose user types come across themselves. -/

namespace NSPluginWrapper
open Lib

variable {V : Type}

/-- What one side sends, the other receives as `b`. -/
abbrev Exchanged {α : Type} (w : Send Unit) (r : Recv α) (b : α) : Prop :=
  Exchanges OutMessage.sink InMessage.source w r b

/-! ### Which arguments -/

/-- A value of a user type whose descriptor sends and receives it. -/
def TypeMap.Carries (types : TypeMap V) (t : UserType) (x : V) : Prop :=
  ∃ desc, types t = some desc ∧ Exchanged (desc.sendCallback x) desc.recvCallback x

def ShortString (str : Option CString) : Prop := ∀ s ∈ str, s.bytes.length < 2 ^ 31

/-- Lengths below 2^31. -/
def Arg.Short : Arg V → Prop
  | .string str => ShortString str
  | .array (.elements es) => es.length < 2 ^ 31 ∧ match es with
    | .string xs => ∀ str ∈ xs, ShortString str
    | _ => True
  | _ => True

/-- The values of user types come across by their own descriptors. -/
def Arg.Carried (types : TypeMap V) : Arg V → Prop
  | .array (.elements (.user t xs)) => ∀ x ∈ xs, types.Carries t x
  | .user t x => types.Carries t x
  | _ => True

/-- The last element of an array of a user type starts below 2^31, where an `int` still counts. -/
def Arg.Addressable (types : TypeMap V) : Arg V → Prop
  | .array (.elements (.user t xs)) => ∀ desc, types t = some desc → (xs.length - 1) * desc.size < 2 ^ 31
  | _ => True

/-- What the receiver has of an argument: of an array without elements, the size and NULL. -/
def Arg.received : Arg V → Arg V
  | .array (.elements es) => if es.length = 0 then .array (.null es.type 0) else .array (.elements es)
  | arg => arg

/-! ### Elements -/

theorem indexed_eq {σ : Type} {i : Nat} (h : i < 2 ^ 31) : indexed (σ := σ) i = pure () := by
  rw [indexed, cInt_of_lt h, if_pos (by omega)]

theorem addressed_eq {σ : Type} {block size i : Nat} (h : i * size < 2 ^ 31) (hblock : i * size + size ≤ block) :
    addressed (σ := σ) block size i = pure () := by
  rw [addressed, cInt_of_lt h, if_pos (by omega)]

theorem allocate_reads : Reads InMessage.source allocate [] () := malloc_reads.bind_nil (.pure ())

theorem indexed_exchanged {α : Type} {w : α → Send Unit} {r : Recv α} {xs : List α} (hlen : xs.length < 2 ^ 31)
    (h : ∀ x ∈ xs, Exchanged (w x) r x) :
    Exchanged (writeFrom (fun i x => do indexed i; w x) 0 xs) (readFrom (fun i => do indexed i; r) 0 xs.length) xs := by
  have hall := Exchanges.all (w := fun i x => do indexed i; w x) (r := fun i => do indexed i; r) (d := id) xs 0
    fun x hx j hj => by
      rw [indexed_eq (by omega), indexed_eq (by omega)]
      exact .after_write (.pure ()) (.after_read (.pure ()) (h x hx))
  rwa [List.map_id] at hall

theorem addressed_exchanged {w : V → Send Unit} {r : Recv V} {xs : List V} {size : Nat} (hsize : size < 2 ^ 31)
    (hlen : (xs.length - 1) * size < 2 ^ 31) (h : ∀ x ∈ xs, Exchanged (w x) r x) :
    Exchanged (writeFrom (fun i x => do addressed (xs.length * size) size i; w x) 0 xs)
      (readFrom (fun i => do addressed (xs.length * size % 2 ^ 32) size i; r) 0 xs.length) xs := by
  have hall := Exchanges.all (w := fun i x => do addressed (xs.length * size) size i; w x)
    (r := fun i => do addressed (xs.length * size % 2 ^ 32) size i; r) (d := id) xs 0 fun x hx j hj => by
      have hj : j ≤ xs.length - 1 := by omega
      have hlast : xs.length * size = (xs.length - 1) * size + size := by
        rw [← Nat.succ_mul, Nat.succ_eq_add_one, Nat.sub_add_cancel (List.length_pos_of_mem hx)]
      have hoffset : j * size ≤ (xs.length - 1) * size := Nat.mul_le_mul_right _ hj
      have hblock : xs.length * size % 2 ^ 32 = xs.length * size := Nat.mod_eq_of_lt (by omega)
      rw [hblock, addressed_eq (by omega) (by omega), addressed_eq (by omega) (by omega)]
      exact .after_write (.pure ()) (.after_read (.pure ()) (h x hx))
  rwa [List.map_id] at hall

theorem recvElements_user (types : TypeMap V) (t : UserType) (size : Nat) : recvElements types t.id size =
    match types t with
    | some desc => do
      allocate
      .user t <$> readFrom (fun i => do addressed (size * desc.size % 2 ^ 32) desc.size i; desc.recvCallback) 0 size
    | none => throw (.error RpcError.messageArgumentUnknown) := by
  have h := t.notBuiltin
  simp only [builtinTypes, List.mem_cons, not_or] at h
  obtain ⟨-, h₁, h₂, h₃, h₄, h₅, h₆, h₇, -, -⟩ := h
  rw [recvElements, if_neg h₁, if_neg h₂, if_neg h₃, if_neg h₄, if_neg h₅, if_neg h₆, if_neg h₇]
  exact dif_pos t.notBuiltin

theorem elements_exchanged {types : TypeMap V} {es : Elements V} (hpos : 0 < es.length)
    (hshort : Arg.Short (.array (.elements es))) (hcarried : Arg.Carried types (.array (.elements es)))
    (haddr : Arg.Addressable types (.array (.elements es))) :
    Exchanged (sendElements types es) (recvElements types es.type es.length) es := by
  have hlen := hshort.1
  match es, hlen, hpos, hshort, hcarried, haddr with
  | .char xs, hlen, hpos, _, _, _ =>
    have hne : xs ≠ [] := List.length_pos_iff.mp hpos
    change Exchanged (rpcMessageSendBytes xs (cInt xs.length))
      (do allocate; Elements.char <$> rpcMessageRecvBytes (cInt xs.length)) (Elements.char xs)
    rw [cInt_of_lt (n := xs.length) hlen]
    exact .after_read allocate_reads (.map ⟨xs, rpcMessageSendBytes_writes xs, rpcMessageRecvBytes_reads hne⟩ _)
  | .boolean xs, hlen, _, _, _, _ =>
    exact .after_read allocate_reads (.map (indexed_exchanged hlen fun x _ => ⟨_, int32_delivers x⟩) _)
  | .int32 xs, hlen, _, _, _, _ =>
    exact .after_read allocate_reads (.map (indexed_exchanged hlen fun x _ => ⟨_, int32_delivers x⟩) _)
  | .uint32 xs, hlen, _, _, _, _ =>
    exact .after_read allocate_reads (.map (indexed_exchanged hlen fun x _ => ⟨_, uint32_delivers x⟩) _)
  | .uint64 xs, hlen, _, _, _, _ =>
    exact .after_read allocate_reads (.map (indexed_exchanged hlen fun x _ => ⟨_, uint64_delivers x⟩) _)
  | .double xs, hlen, _, _, _, _ =>
    exact .after_read allocate_reads (.map (indexed_exchanged hlen fun x _ => ⟨_, double_delivers x⟩) _)
  | .string xs, hlen, _, hshort, _, _ =>
    exact .after_read allocate_reads (.map (indexed_exchanged hlen fun str hs =>
      ⟨_, string_delivers str (hshort.2 str hs)⟩) _)
  | .user t xs, hlen, hpos, _, hcarried, haddr =>
    obtain ⟨x, hx⟩ := List.exists_mem_of_length_pos hpos
    obtain ⟨desc, hdesc, -⟩ := hcarried x hx
    have hcallback : ∀ x ∈ xs, Exchanged (desc.sendCallback x) desc.recvCallback x := fun x hx => by
      obtain ⟨desc', hdesc', h⟩ := hcarried x hx
      rw [hdesc, Option.some.injEq] at hdesc'
      rwa [hdesc']
    rw [Elements.type, recvElements_user]
    simp only [sendElements, hdesc]
    exact .after_read allocate_reads (.map (addressed_exchanged desc.size_lt (haddr desc hdesc) hcallback) _)

/-! ### Arguments -/

theorem array_exchanged {types : TypeMap V} {a : ArrayArg V} {b : ArrayArg V}
    (hshort : Arg.Short (.array a)) (hcarried : Arg.Carried types (.array a))
    (haddr : Arg.Addressable types (.array a)) (hb : Arg.received (.array a) = .array b) :
    Exchanged (sendArray types a) (recvArray types) b := by
  cases a with
  | null type size =>
    cases hb
    refine .bind ⟨_, int32_delivers _⟩ ?_
    refine .bind ⟨_, uint32_delivers _⟩ ?_
    exact .then_read ⟨_, char_delivers 0⟩ (.pure _)
  | elements es =>
    refine .bind ⟨_, int32_delivers _⟩ ?_
    refine .bind ⟨_, uint32_delivers _⟩ ?_
    have hlen := hshort.1
    have hsize : (ArrayArg.elements es).size.toNat = es.length := by
      rw [ArrayArg.size, UInt32.toNat_ofNat', Nat.mod_eq_of_lt (by omega)]
    have hzero : (ArrayArg.elements es).size = 0 ↔ es.length = 0 := by
      rw [← UInt32.toNat_inj, hsize]
      rfl
    simp only [hsize, hzero, UInt32.pos_iff_ne_zero, ne_eq]
    by_cases hnil : es.length = 0
    · have hbnull : b = .null es.type 0 := by
        rw [Arg.received, if_pos hnil, Arg.array.injEq] at hb
        exact hb.symm
      rw [if_neg (not_not_intro hnil), hbnull]
      refine .then_read ⟨_, char_delivers 0⟩ ?_
      rw [if_pos rfl, hzero.mpr hnil]
      exact .pure _
    · have hbes : b = .elements es := by
        rw [Arg.received, if_neg hnil, Arg.array.injEq] at hb
        exact hb.symm
      rw [if_pos hnil, hbes]
      refine .bind ⟨_, char_delivers 1⟩ ?_
      rw [if_neg (by decide), if_neg hnil]
      exact .map (elements_exchanged (by omega) hshort hcarried haddr) _

/-- What `rpc_message_send_args` sends of an argument after its type. -/
def sendValue (types : TypeMap V) : Arg V → Send Unit
  | .char c => rpcMessageSendChar c
  | .boolean value | .int32 value => rpcMessageSendInt32 value
  | .uint32 value => rpcMessageSendUint32 value
  | .uint64 value => rpcMessageSendUint64 value
  | .double value => rpcMessageSendDouble value
  | .string str => rpcMessageSendString str
  | .array a => sendArray types a
  | .user t x =>
    match types t with
    | some desc => desc.sendCallback x
    | none => throw (.error RpcError.messageArgumentUnknown)

theorem sendArg_eq {types : TypeMap V} (arg : Arg V) :
    sendArg types arg = (do rpcMessageSendInt32 arg.argType.code; sendValue types arg) := by
  cases arg <;> rfl

theorem value_exchanged {types : TypeMap V} {arg : Arg V} (hshort : arg.Short) (hcarried : arg.Carried types)
    (haddr : arg.Addressable types) : Exchanged (sendValue types arg) (recvValue types arg.argType) arg.received := by
  match arg, hshort, hcarried, haddr with
  | .char c, _, _, _ => exact .map ⟨_, char_delivers c⟩ Arg.char
  | .boolean value, _, _, _ => exact .map ⟨_, int32_delivers value⟩ Arg.boolean
  | .int32 value, _, _, _ => exact .map ⟨_, int32_delivers value⟩ Arg.int32
  | .uint32 value, _, _, _ => exact .map ⟨_, uint32_delivers value⟩ Arg.uint32
  | .uint64 value, _, _, _ => exact .map ⟨_, uint64_delivers value⟩ Arg.uint64
  | .double value, _, _, _ => exact .map ⟨_, double_delivers value⟩ Arg.double
  | .string str, hshort, _, _ => exact .map ⟨_, string_delivers str hshort⟩ Arg.string
  | .array a, hshort, hcarried, haddr =>
    obtain ⟨b, hb⟩ : ∃ b, Arg.received (.array a) = .array b := by
      cases a with
      | null => exact ⟨_, rfl⟩
      | elements es =>
        simp only [Arg.received]
        split <;> exact ⟨_, rfl⟩
    rw [hb]
    exact .map (array_exchanged hshort hcarried haddr hb) Arg.array
  | .user t x, _, hcarried, _ =>
    obtain ⟨desc, hdesc, h⟩ := hcarried
    simp only [sendValue, recvValue, Arg.argType, hdesc]
    exact h.map _

theorem arg_exchanged {types : TypeMap V} {arg : Arg V} (hshort : arg.Short) (hcarried : arg.Carried types)
    (haddr : arg.Addressable types) : Exchanged (sendArg types arg) (recvArg types arg.argType) arg.received := by
  rw [sendArg_eq]
  refine .bind ⟨_, int32_delivers _⟩ ?_
  rw [if_neg (not_not_intro rfl)]
  exact value_exchanged hshort hcarried haddr

theorem args_exchanged {types : TypeMap V} {args : List (Arg V)} (hshort : ∀ arg ∈ args, arg.Short)
    (hcarried : ∀ arg ∈ args, arg.Carried types) (haddr : ∀ arg ∈ args, arg.Addressable types) :
    Exchanged (sendEach types args) (recvEach types (args.map Arg.argType)) (args.map Arg.received) := by
  induction args with
  | nil => exact .pure []
  | cons arg args ih =>
    have harg := arg_exchanged (hshort arg (List.mem_cons_self ..)) (hcarried arg (List.mem_cons_self ..))
      (haddr arg (List.mem_cons_self ..))
    have hargs := ih (fun a h => hshort a (List.mem_cons_of_mem _ h)) (fun a h => hcarried a (List.mem_cons_of_mem _ h))
      (fun a h => haddr a (List.mem_cons_of_mem _ h))
    exact harg.bind (hargs.map (List.cons arg.received))

theorem marker_exchanged (marker : Int32) : Exchanged (rpcMessageSendInt32 marker) (expectMarker marker) () := by
  refine .then_read ⟨_, int32_delivers marker⟩ ?_
  rw [if_neg (not_not_intro rfl)]
  exact .pure ()

theorem rpcMessageArgs_exchanged {types : TypeMap V} {args : List (Arg V)} (hshort : ∀ arg ∈ args, arg.Short)
    (hcarried : ∀ arg ∈ args, arg.Carried types) (haddr : ∀ arg ∈ args, arg.Addressable types) :
    Exchanged (rpcMessageSendArgs types args) (rpcMessageRecvArgs types (args.map Arg.argType))
      (args.map Arg.received) := by
  rw [rpcMessageSendArgs, rpcMessageRecvArgs, List.isEmpty_map]
  cases args with
  | nil => exact .pure []
  | cons arg args =>
    refine .bind (marker_exchanged _) ?_
    refine .bind (args_exchanged hshort hcarried haddr) ?_
    exact (marker_exchanged _).map fun _ => _

/-! ### Arrays past the range of an `int` -/

theorem addressed_fault {σ : Type} {block size i : Nat} (hlow : 2 ^ 31 ≤ i * size) (hhigh : i * size < 2 ^ 32) :
    addressed (σ := σ) block size i = throw .fault := by
  have hneg : cInt (i * size : Nat) < 0 := by
    rw [cInt, Int.bmod_def]
    omega
  rw [addressed, if_neg (by omega)]

/-- Such an array stops its sender at the first element whose offset an `int` does not hold. -/
theorem elements_stop {types : TypeMap V} {t : UserType} {xs : List V}
    (hcarried : Arg.Carried types (.array (.elements (.user t xs))))
    (haddr : ¬Arg.Addressable types (.array (.elements (.user t xs)))) :
    Stops OutMessage.sink (sendElements types (.user t xs)) .fault := by
  obtain ⟨desc, hdesc, hlast⟩ : ∃ desc, types t = some desc ∧ 2 ^ 31 ≤ (xs.length - 1) * desc.size := by
    by_contra hnone
    refine haddr fun desc hdesc => ?_
    by_contra hlast
    exact hnone ⟨desc, hdesc, by omega⟩
  simp only [sendElements, hdesc]
  obtain ⟨q, hq⟩ : ∃ q, q = (2 ^ 31 - 1) / desc.size := ⟨_, rfl⟩
  have hpos := desc.size_pos
  have hlt := desc.size_lt
  have hqlow : q * desc.size < 2 ^ 31 := by
    have h := Nat.div_mul_le_self (2 ^ 31 - 1) desc.size
    rw [← hq] at h
    omega
  have hqhigh : 2 ^ 31 ≤ (q + 1) * desc.size := by
    have h : 2 ^ 31 - 1 < (2 ^ 31 - 1) / desc.size * desc.size + desc.size := Nat.lt_div_mul_add hpos
    rw [← hq] at h
    rw [Nat.succ_mul]
    omega
  have hqlen : q < xs.length - 1 := by
    by_contra h
    have hmul := Nat.mul_le_mul_right desc.size (Nat.le_of_not_lt h)
    omega
  refine Stops.at xs 0 (q + 1) (by omega) (fun x hx k hk => ?_) fun x _ => ?_
  · obtain ⟨desc', hdesc', bs, hw, -⟩ := hcarried x hx
    rw [hdesc, Option.some.injEq] at hdesc'
    subst hdesc'
    have hoffset : k * desc.size ≤ q * desc.size := Nat.mul_le_mul_right _ (by omega)
    have hblock : k * desc.size + desc.size ≤ xs.length * desc.size := by
      rw [← Nat.succ_mul]
      exact Nat.mul_le_mul_right _ (by omega)
    rw [addressed_eq (by omega) hblock]
    exact ⟨bs, (Writes.pure ()).bind_nil hw⟩
  · rw [Nat.zero_add, addressed_fault hqhigh (by rw [Nat.succ_mul]; omega)]
    exact Stops.bind (fun s _ => ⟨s, rfl⟩) _

theorem array_stops {types : TypeMap V} {t : UserType} {xs : List V}
    (hshort : Arg.Short (.array (.elements (.user t xs))))
    (hcarried : Arg.Carried types (.array (.elements (.user t xs))))
    (haddr : ¬Arg.Addressable types (.array (.elements (.user t xs)))) (hne : xs ≠ []) :
    Stops OutMessage.sink (sendArray types (.elements (.user t xs))) .fault := by
  refine (int32_delivers _).writes.stops ?_
  refine (uint32_delivers _).writes.stops ?_
  have hlen := hshort.1
  have hpos : 0 < (ArrayArg.elements (.user t xs)).size := by
    rw [UInt32.lt_iff_toNat_lt, ArrayArg.size, UInt32.toNat_ofNat', Nat.mod_eq_of_lt (by omega)]
    exact List.length_pos_iff.mpr hne
  simp only [hpos, if_true]
  exact (char_delivers 1).writes.stops (elements_stop hcarried haddr)

theorem arg_stops {types : TypeMap V} {arg : Arg V} (hshort : arg.Short) (hcarried : arg.Carried types)
    (haddr : ¬arg.Addressable types) : Stops OutMessage.sink (sendArg types arg) .fault := by
  match arg, hshort, hcarried, haddr with
  | .array (.elements (.user t xs)), hshort, hcarried, haddr =>
    have hne : xs ≠ [] := fun hnil => haddr fun desc _ => by simp [hnil]
    exact (int32_delivers _).writes.stops (array_stops hshort hcarried haddr hne)
  | .array (.elements (.char _)), _, _, haddr | .array (.elements (.boolean _)), _, _, haddr
  | .array (.elements (.int32 _)), _, _, haddr | .array (.elements (.uint32 _)), _, _, haddr
  | .array (.elements (.uint64 _)), _, _, haddr | .array (.elements (.double _)), _, _, haddr
  | .array (.elements (.string _)), _, _, haddr | .array (.null ..), _, _, haddr => exact absurd trivial haddr
  | .char _, _, _, haddr | .boolean _, _, _, haddr | .int32 _, _, _, haddr | .uint32 _, _, _, haddr
  | .uint64 _, _, _, haddr | .double _, _, _, haddr | .string _, _, _, haddr | .user .., _, _, haddr =>
    exact absurd trivial haddr

theorem sendEach_stops {types : TypeMap V} {args : List (Arg V)} (hshort : ∀ arg ∈ args, arg.Short)
    (hcarried : ∀ arg ∈ args, arg.Carried types) (haddr : ¬∀ arg ∈ args, arg.Addressable types) :
    Stops OutMessage.sink (sendEach types args) .fault := by
  induction args with
  | nil => exact absurd (fun _ h => nomatch h) haddr
  | cons arg args ih =>
    rw [List.forall_mem_cons] at hshort hcarried haddr
    by_cases h : arg.Addressable types
    · obtain ⟨bs, hw, -⟩ := arg_exchanged hshort.1 hcarried.1 h
      exact hw.stops (ih hshort.2 hcarried.2 fun hall => haddr ⟨h, hall⟩)
    · exact (arg_stops hshort.1 hcarried.1 h).bind _

theorem rpcMessageSendArgs_stops {types : TypeMap V} {args : List (Arg V)} (hshort : ∀ arg ∈ args, arg.Short)
    (hcarried : ∀ arg ∈ args, arg.Carried types) (haddr : ¬∀ arg ∈ args, arg.Addressable types) :
    Stops OutMessage.sink (rpcMessageSendArgs types args) .fault := by
  have hstops := sendEach_stops hshort hcarried haddr
  cases args with
  | nil => exact absurd (fun _ h => nomatch h) haddr
  | cons arg args => exact (int32_delivers _).writes.stops (hstops.bind _)

/-- A message on a fresh socket that takes everything. -/
def OutMessage.fresh : OutMessage := ⟨[], [], []⟩

theorem OutMessage.fresh_live : OutMessage.fresh.Live := fun _ h => nomatch h

/-- Of the lists that are otherwise in order, exactly the addressable ones come across. -/
theorem rpcMessageArgs_exchanged_iff {types : TypeMap V} {args : List (Arg V)} (hshort : ∀ arg ∈ args, arg.Short)
    (hcarried : ∀ arg ∈ args, arg.Carried types) :
    Exchanged (rpcMessageSendArgs types args) (rpcMessageRecvArgs types (args.map Arg.argType))
      (args.map Arg.received) ↔ ∀ arg ∈ args, arg.Addressable types := by
  refine ⟨fun h => ?_, rpcMessageArgs_exchanged hshort hcarried⟩
  by_contra haddr
  exact Exchanges.not_of_stops (rpcMessageSendArgs_stops hshort hcarried haddr) OutMessage.fresh_live h

end NSPluginWrapper
