import NSPluginWrapper.Theorems.Args

/-! What `rpc_message_recv_args` checks of a list against the types its caller names: their number and each
    type, but not the element type of an array. -/

namespace NSPluginWrapper
open Lib

variable {V : Type} {types : TypeMap V}

/-- `rpc_message_recv_args` for `expected` accepts the list that was written as `bs` only where the types are those
    it was sent with, gives no array of another type than its caller named, and stops with an error elsewhere. What
    is behind the list is no list. -/
def Checked (types : TypeMap V) (sent : List (Arg V)) (bs : List UInt8) (expected : List ArgType) : Prop :=
  ∀ m rest, InMessage.Live m → m.held = bs ++ rest → ¬be32 RpcMessage.args.toUInt32 <+: rest →
    match rpcMessageRecvArgs types expected m with
    | .ok args _ => expected = sent.map Arg.argType ∧ args.map Arg.argType = expected
    | .error e _ => ∃ code, e = .error code

/-- The numbers of npw-rpc.h, which count from 1. -/
def TypeMap.Numbered (types : TypeMap V) : Prop := ∀ t, (types t).isSome → 0 < t.id.toInt

/-! ### Types with one number -/

theorem ArgType.user_or_builtin (a : ArgType) : (∃ t, a = .user t) ∨ a.code ∈ builtinTypes := by
  cases a with
  | user t => exact Or.inl ⟨t, rfl⟩
  | array e => exact Or.inr (show RpcType.array ∈ builtinTypes by decide)
  | _ => exact Or.inr (by decide)

/-- A receiver cannot tell apart two types with one number. -/
theorem recvValue_congr {a b : ArgType} (h : a.code = b.code) : recvValue types a = recvValue types b := by
  rcases a.user_or_builtin with ⟨t, rfl⟩ | ha
  · rcases b.user_or_builtin with ⟨u, rfl⟩ | hb
    · obtain rfl : t = u := by
        cases t
        cases u
        cases h
        rfl
      rfl
    · rw [← h] at hb
      exact absurd hb t.notBuiltin
  · rcases b.user_or_builtin with ⟨u, rfl⟩ | hb
    · rw [h] at ha
      exact absurd ha u.notBuiltin
    · cases a <;> cases b <;>
        first | rfl | cases h | exact absurd ha (UserType.notBuiltin _) | exact absurd hb (UserType.notBuiltin _)

theorem recvArg_congr {a b : ArgType} (h : a.code = b.code) : recvArg types a = recvArg types b := by
  rw [recvArg, recvArg, h, recvValue_congr h]

theorem recvEach_congr {as bs : List ArgType} (h : as.map ArgType.code = bs.map ArgType.code) :
    recvEach types as = recvEach types bs := by
  induction as generalizing bs with
  | nil =>
    cases bs with
    | nil => rfl
    | cons b bs => cases h
  | cons a as ih =>
    cases bs with
    | nil => cases h
    | cons b bs =>
      obtain ⟨hcode, hcodes⟩ := List.cons.inj h
      rw [recvEach, recvEach, recvArg_congr hcode, ih hcodes]

theorem rpcMessageRecvArgs_congr {as bs : List ArgType} (h : as.map ArgType.code = bs.map ArgType.code) :
    rpcMessageRecvArgs types as = rpcMessageRecvArgs types bs := by
  have hempty : as.isEmpty = bs.isEmpty := by
    have hcodes := congrArg List.isEmpty h
    rwa [List.isEmpty_map, List.isEmpty_map] at hcodes
  rw [rpcMessageRecvArgs, rpcMessageRecvArgs, hempty, recvEach_congr h]

/-! ### What is on the wire of a list -/

/-- Every argument is its type and what its value is read from. -/
inductive Listed (types : TypeMap V) : List (Arg V) → List UInt8 → Prop where
  | nil : Listed types [] []
  | cons {arg args bs cs} : Delivers (sendValue types arg) (recvValue types arg.argType) bs arg.received →
    Listed types args cs → Listed types (arg :: args) (be32 arg.argType.code.toUInt32 ++ (bs ++ cs))

theorem Listed.writes {args : List (Arg V)} {bs : List UInt8} (h : Listed types args bs) :
    Writes OutMessage.sink (sendEach types args) bs () := by
  induction h with
  | nil => exact .pure ()
  | @cons arg args bs cs hvalue _ ih =>
    rw [sendEach, sendArg_eq, ← List.append_assoc]
    exact ((int32_delivers _).writes.bind hvalue.writes).bind ih

theorem Listed.reads {args : List (Arg V)} {bs : List UInt8} (h : Listed types args bs) :
    Reads InMessage.source (recvEach types (args.map Arg.argType)) bs (args.map Arg.received) := by
  induction h with
  | nil => exact .pure []
  | @cons arg args bs cs hvalue _ ih =>
    rw [List.map_cons, recvEach, recvArg, ← List.append_assoc]
    refine ((int32_delivers _).reads.bind ?_).bind (ih.map (arg.received :: ·))
    rw [if_neg (not_not_intro rfl)]
    exact hvalue.reads

theorem listed_of_shorts {args : List (Arg V)} (hshort : ∀ arg ∈ args, arg.Short)
    (hcarried : ∀ arg ∈ args, arg.Carried types) (haddr : ∀ arg ∈ args, arg.Addressable types) :
    ∃ bs, Listed types args bs := by
  induction args with
  | nil => exact ⟨[], .nil⟩
  | cons arg args ih =>
    rw [List.forall_mem_cons] at hshort hcarried haddr
    obtain ⟨bs, hvalue⟩ := value_exchanged hshort.1 hcarried.1 haddr.1
    obtain ⟨cs, hlisted⟩ := ih hshort.2 hcarried.2 haddr.2
    exact ⟨_, .cons hvalue hlisted⟩

/-! ### Lists of other types -/

/-- Stopped by an error, and not by a fault. -/
def Failure.IsError (e : Failure) : Prop := ∃ code, e = .error code

abbrev Refuses {α : Type} (r : Recv α) (bs : List UInt8) : Prop := Rejects InMessage.source r bs Failure.IsError

/-- No type that is registered is numbered as the end of a list. -/
theorem finish_not_registered (hnum : types.Numbered) {a : ArgType} (h : a.code = RpcMessage.finish) :
    ∃ t, a = .user t ∧ types t = none := by
  rcases a.user_or_builtin with ⟨t, rfl⟩ | hbuiltin
  · refine ⟨t, rfl, ?_⟩
    by_contra hne
    have hpos := hnum t (Option.isSome_iff_ne_none.mpr hne)
    rw [show t.id = RpcMessage.finish from h] at hpos
    exact absurd hpos (by decide)
  · rw [h] at hbuiltin
    exact absurd hbuiltin (by decide)

/-- The end of the list where an argument has to be. -/
theorem recvArg_finish (hnum : types.Numbered) (expected : ArgType) :
    Refuses (recvArg types expected) (be32 RpcMessage.finish.toUInt32) := by
  rw [← List.append_nil (be32 _)]
  refine (int32_delivers RpcMessage.finish).reads.rejects ?_
  by_cases hcode : expected.code = RpcMessage.finish
  · obtain ⟨t, rfl, ht⟩ := finish_not_registered hnum hcode
    rw [if_neg (not_not_intro hcode.symm), recvValue, ht]
    exact .throw ⟨_, rfl⟩ _
  · rw [if_pos (Ne.symm hcode)]
    exact .throw ⟨_, rfl⟩ _

theorem recvArg_refuses {expected : ArgType} {code : Int32} (h : code ≠ expected.code) :
    Refuses (recvArg types expected) (be32 code.toUInt32) := by
  rw [← List.append_nil (be32 _)]
  refine (int32_delivers code).reads.rejects ?_
  rw [if_pos h]
  exact .throw ⟨_, rfl⟩ _

theorem expectMarker_refuses {marker value : Int32} (h : value ≠ marker) :
    Refuses (expectMarker marker) (be32 value.toUInt32) := by
  rw [← List.append_nil (be32 _)]
  refine (int32_delivers value).reads.rejects ?_
  rw [if_pos h]
  exact .throw ⟨_, rfl⟩ _

theorem expectMarker_reads (marker : Int32) :
    Reads InMessage.source (expectMarker marker) (be32 marker.toUInt32) () := by
  refine (int32_delivers marker).reads.bind_pure ?_
  rw [if_neg (not_not_intro rfl)]
  exact .pure ()

/-- The arguments and the end of a list whose types have other numbers. -/
theorem Listed.refuses (hnum : types.Numbered) {args : List (Arg V)} {bs : List UInt8} (h : Listed types args bs)
    (hcarried : ∀ arg ∈ args, arg.Carried types) {expected : List ArgType}
    (hne : expected.map ArgType.code ≠ args.map fun arg => arg.argType.code) {β : Type} (f : List (Arg V) → Recv β) :
    Refuses (recvEach types expected >>= fun got => expectMarker RpcMessage.finish >>= fun _ => f got)
      (bs ++ be32 RpcMessage.finish.toUInt32) := by
  induction h generalizing expected f with
  | nil =>
    cases expected with
    | nil => exact absurd rfl hne
    | cons e es => exact ((recvArg_finish hnum e).bind _).bind _
  | @cons arg args bs cs hvalue _ ih =>
    rw [List.forall_mem_cons] at hcarried
    rw [List.append_assoc]
    cases expected with
    | nil =>
      have hcode : arg.argType.code ≠ RpcMessage.finish := by
        intro hcode
        obtain ⟨t, ht, hnone⟩ := finish_not_registered hnum hcode
        cases arg with
        | user u x =>
          cases ht
          obtain ⟨desc, hdesc, -⟩ := hcarried.1
          cases hnone.symm.trans hdesc
        | _ => cases ht
      exact (Reads.pure []).rejects (((expectMarker_refuses hcode).bind _).append _)
    | cons e es =>
      by_cases hcode : e.code = arg.argType.code
      · rw [recvEach, recvArg_congr hcode, recvArg, bind_assoc, bind_assoc, List.append_assoc]
        refine (int32_delivers _).reads.rejects ?_
        rw [if_neg (not_not_intro rfl)]
        refine hvalue.reads.rejects ?_
        have hcodes : es.map ArgType.code ≠ args.map fun arg => arg.argType.code := by
          intro h
          exact hne (List.cons_eq_cons.mpr ⟨hcode, h⟩)
        have hrest := ih hcarried.2 hcodes fun got => f (arg.received :: got)
        simpa only [bind_assoc, pure_bind] using hrest
      · have hrefuse : Refuses (recvArg types e) (be32 arg.argType.code.toUInt32) :=
          recvArg_refuses (Ne.symm hcode)
        exact ((hrefuse.bind _).bind _).append _

/-! ### Signatures -/

theorem received_argType (arg : Arg V) : arg.received.argType = arg.argType := by
  cases arg with
  | array a =>
    cases a with
    | null => rfl
    | elements es =>
      simp only [Arg.received]
      split <;> rfl
  | _ => rfl

/-- Nothing behind an empty list is taken for a list. -/
theorem empty_refused {expected : List ArgType} (hne : expected ≠ []) {m : InMessage}
    (hrest : ¬be32 RpcMessage.args.toUInt32 <+: m.held) :
    ∃ code t, rpcMessageRecvArgs types expected m = .error (.error code) t := by
  have hmarker : ∃ code t, expectMarker RpcMessage.args m = .error (.error code) t := by
    rcases rpcMessageRecvInt32_cases m with ⟨value, t, ht, hheld⟩ | ⟨code, t, ht⟩
    · have hvalue : value ≠ RpcMessage.args := by
        rintro rfl
        exact hrest ⟨t.held, hheld.symm⟩
      refine ⟨RpcError.messageTruncated, t, ?_⟩
      simp only [expectMarker, bind, EStateM.bind, ht, if_pos hvalue]
      rfl
    · exact ⟨code, t, by simp only [expectMarker, bind, EStateM.bind, ht]⟩
  obtain ⟨code, t, ht⟩ := hmarker
  cases expected with
  | nil => exact absurd rfl hne
  | cons e es => exact ⟨code, t, by simp [rpcMessageRecvArgs, bind, EStateM.bind, ht]⟩

/-- A message that holds some bytes. -/
theorem exists_held (bs : List UInt8) : ∃ m : InMessage, m.Live ∧ m.held = bs := by
  cases bs with
  | nil => exact ⟨⟨[], []⟩, ⟨nofun, nofun⟩, rfl⟩
  | cons b bs =>
    refine ⟨⟨[.data b bs], []⟩, ⟨fun e he => ?_, nofun⟩, by simp [InMessage.held, RecvEvent.bytes]⟩
    rw [List.mem_singleton.mp he]
    trivial

end NSPluginWrapper
