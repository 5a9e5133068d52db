import NSPluginWrapper.Lib.Machine
import NSPluginWrapper.Lib.Table
import NSPluginWrapper.Npruntime.Operations

/-! npw-viewer.c: the identifiers that the viewer has seen, and the functions that look there before they ask the
    browser. Every block is allocated, and all calls are made on the main thread. -/

namespace NSPluginWrapper
open Lib

/-- What the browser says of identifiers: one is of one string, or of one integer. -/
structure Browser where
  getStringIdentifier : Option CString → NPIdentifier
  getIntIdentifier : Int32 → NPIdentifier
  identifierIsString : NPIdentifier → Bool
  utf8FromIdentifier : NPIdentifier → Option CString
  intFromIdentifier : NPIdentifier → Int32
  string_isString : ∀ s, identifierIsString (getStringIdentifier (some s)) = true
  string_utf8 : ∀ s, utf8FromIdentifier (getStringIdentifier (some s)) = some s
  int_isString : ∀ n, identifierIsString (getIntIdentifier n) = false
  int_utf8 : ∀ n, utf8FromIdentifier (getIntIdentifier n) = none
  int_int : ∀ n, intFromIdentifier (getIntIdentifier n) = n

/-- A `string_len` above 0 is a string's. -/
inductive NPIdentifierInfo where
  | string (string : CString)
  | value (value : Int32)
  deriving Repr, DecidableEq

/-- `g_npidentifier_cache`, NULL before it is used. -/
abbrev NPIdentifierCache := Option (Table NPIdentifier NPIdentifierInfo)

/-- NPIDENTIFIER_CACHE_SIZE. -/
def npidentifierCacheSize : Nat := 256

/-- What stops the process: an assertion that fails, or strlen() of NULL. -/
inductive CacheFault where
  | assertion
  | nullString
  deriving Repr, DecidableEq

namespace NPIdentifierCache

def size (cache : NPIdentifierCache) : Nat := (cache.map Table.size).getD 0

/-- With g_hash_table_remove_all(); the other way there is an empty table where there was none. -/
def invalidate (cache : NPIdentifierCache) : NPIdentifierCache := cache.map fun _ => ∅

def reserve (cache : NPIdentifierCache) (nEntries : Nat) : NPIdentifierCache :=
  let table := cache.getD ∅
  if npidentifierCacheSize < table.size + nEntries then some ∅ else some table

def lookup (cache : NPIdentifierCache) (ident : NPIdentifier) : Option NPIdentifierInfo := cache.bind fun t => t.lookup ident

def add (cache : NPIdentifierCache) (ident : NPIdentifier) (info : NPIdentifierInfo) : NPIdentifierCache :=
  cache.map fun t => t.insert ident info

def addInt (cache : NPIdentifierCache) (ident : NPIdentifier) (value : Int32) : NPIdentifierCache := cache.add ident (.value value)

def addString (cache : NPIdentifierCache) (ident : NPIdentifier) : Option CString → Except CacheFault NPIdentifierCache
  | none => .error .nullString
  | some str => .ok (cache.add ident (.string str))

/-- Of several identifiers that are found, g_hash_table_find() gives one. -/
def find (cache : NPIdentifierCache) (info : NPIdentifierInfo) : Option NPIdentifier :=
  cache.bind fun t => t.find fun npi => decide (npi = info)

def getStringCopy (cache : NPIdentifierCache) (ident : NPIdentifier) : Option CString :=
  match cache.lookup ident with
  | some (.string string) => some string
  | _ => none

end NPIdentifierCache

/-! ### The calls to the browser -/

/-- `ok` says that the call and its reply came across. -/
def invokeNPNGetStringIdentifier (b : Browser) (ok : Bool) (name : CString) : NPIdentifier :=
  if ok then b.getStringIdentifier (some name) else 0

/-- What fails leaves the identifiers as they are. -/
def invokeNPNGetStringIdentifiers (b : Browser) (ok : Bool) (names : List (Option CString)) (identifiers : List NPIdentifier) :
    List NPIdentifier :=
  if ok then names.map b.getStringIdentifier else identifiers

def invokeNPNGetIntIdentifier (b : Browser) (ok : Bool) (intid : Int32) : NPIdentifier :=
  if ok then b.getIntIdentifier intid else 0

def invokeNPNIdentifierIsString (b : Browser) (ok : Bool) (ident : NPIdentifier) : Bool :=
  if ok then b.identifierIsString ident else false

/-- A reply with NULL is refused by its marshaler, which fails too. -/
def invokeNPNUTF8FromIdentifier (b : Browser) (ok : Bool) (ident : NPIdentifier) : Option CString :=
  if ok then b.utf8FromIdentifier ident else none

def invokeNPNIntFromIdentifier (b : Browser) (ok : Bool) (ident : NPIdentifier) : Int32 :=
  if ok then b.intFromIdentifier ident else -1

/-! ### The functions with a cache -/

section
variable (b : Browser) (cache : NPIdentifierCache) (ok : Bool)

def cachedNPNGetStringIdentifier (name : CString) : Except CacheFault (NPIdentifierCache × NPIdentifier) :=
  match cache.find (.string name) with
  | some ident => .ok (cache, ident)
  | none =>
    let ident := invokeNPNGetStringIdentifier b ok name
    ((cache.reserve 1).addString ident (some name)).map (·, ident)

def storeStrings (cache : NPIdentifierCache) : List (NPIdentifier × Option CString) → Except CacheFault NPIdentifierCache
  | [] => .ok cache
  | (ident, name) :: rest =>
    match cache.lookup ident with
    | some _ => storeStrings cache rest
    | none => ((cache.reserve 1).addString ident name).bind fun cache => storeStrings cache rest

def cachedNPNGetStringIdentifiers (names : List (Option CString)) (identifiers : List NPIdentifier) :
    Except CacheFault (NPIdentifierCache × List NPIdentifier) :=
  let identifiers := invokeNPNGetStringIdentifiers b ok names identifiers
  (storeStrings cache (identifiers.zip names)).map (·, identifiers)

def cachedNPNGetIntIdentifier (intid : Int32) : Except CacheFault (NPIdentifierCache × NPIdentifier) :=
  match cache.find (.value intid) with
  | some ident => .ok (cache, ident)
  | none =>
    let ident := invokeNPNGetIntIdentifier b ok intid
    .ok ((cache.reserve 1).addInt ident intid, ident)

def cachedNPNIdentifierIsString (ident : NPIdentifier) : Except CacheFault (NPIdentifierCache × Bool) :=
  match cache.lookup ident with
  | some (.string _) => .ok (cache, true)
  | some (.value _) => .ok (cache, false)
  | none => .ok (cache, invokeNPNIdentifierIsString b ok ident)

def cachedNPNUTF8FromIdentifier (ident : NPIdentifier) : Except CacheFault (NPIdentifierCache × Option CString) :=
  match cache.getStringCopy ident with
  | some str => .ok (cache, some str)
  | none =>
    let str := invokeNPNUTF8FromIdentifier b ok ident
    ((cache.reserve 1).addString ident str).map (·, str)

def cachedNPNIntFromIdentifier (ident : NPIdentifier) : Except CacheFault (NPIdentifierCache × Int32) :=
  match cache.lookup ident with
  | some (.string _) => .error .assertion
  | some (.value value) => .ok (cache, value)
  | none =>
    let value := invokeNPNIntFromIdentifier b ok ident
    .ok ((cache.reserve 1).addInt ident value, value)

end

/-! ### Runs -/

/-- A call of the plugin. NULL names and arrays are answered before any of this. -/
inductive IdentifierCall where
  | getStringIdentifier (name : CString)
  | getStringIdentifiers (names : List (Option CString)) (identifiers : List NPIdentifier)
  | getIntIdentifier (intid : Int32)
  | identifierIsString (ident : NPIdentifier)
  | utf8FromIdentifier (ident : NPIdentifier)
  | intFromIdentifier (ident : NPIdentifier)
  deriving Repr, DecidableEq

inductive IdentifierAnswer where
  | identifier (ident : NPIdentifier)
  | identifiers (idents : List NPIdentifier)
  | isString (ret : Bool)
  | utf8 (str : Option CString)
  | int (value : Int32)
  deriving Repr, DecidableEq

/-- What the function that asks the browser returns. -/
def IdentifierCall.invoke (b : Browser) (ok : Bool) : IdentifierCall → IdentifierAnswer
  | .getStringIdentifier name => .identifier (invokeNPNGetStringIdentifier b ok name)
  | .getStringIdentifiers names identifiers => .identifiers (invokeNPNGetStringIdentifiers b ok names identifiers)
  | .getIntIdentifier intid => .identifier (invokeNPNGetIntIdentifier b ok intid)
  | .identifierIsString ident => .isString (invokeNPNIdentifierIsString b ok ident)
  | .utf8FromIdentifier ident => .utf8 (invokeNPNUTF8FromIdentifier b ok ident)
  | .intFromIdentifier ident => .int (invokeNPNIntFromIdentifier b ok ident)

/-- What the cached function does; `useCache` is what `use_npidentifier_cache` says. -/
def IdentifierCall.cached (b : Browser) (useCache : Bool) (cache : NPIdentifierCache) (ok : Bool) (call : IdentifierCall) :
    Except CacheFault (NPIdentifierCache × IdentifierAnswer) :=
  if useCache then
    match call with
    | .getStringIdentifier name => (cachedNPNGetStringIdentifier b cache ok name).map fun (c, r) => (c, .identifier r)
    | .getStringIdentifiers names identifiers =>
      (cachedNPNGetStringIdentifiers b cache ok names identifiers).map fun (c, r) => (c, .identifiers r)
    | .getIntIdentifier intid => (cachedNPNGetIntIdentifier b cache ok intid).map fun (c, r) => (c, .identifier r)
    | .identifierIsString ident => (cachedNPNIdentifierIsString b cache ok ident).map fun (c, r) => (c, .isString r)
    | .utf8FromIdentifier ident => (cachedNPNUTF8FromIdentifier b cache ok ident).map fun (c, r) => (c, .utf8 r)
    | .intFromIdentifier ident => (cachedNPNIntFromIdentifier b cache ok ident).map fun (c, r) => (c, .int r)
  else
    .ok (cache, call.invoke b ok)

/-- The identifiers a plugin passes are the browser's, and there is room for as many as it asks for. -/
def IdentifierCall.Valid (b : Browser) : IdentifierCall → Prop
  | .getStringIdentifiers names identifiers => identifiers.length = names.length
  | .identifierIsString ident | .utf8FromIdentifier ident | .intFromIdentifier ident =>
    (∃ s, ident = b.getStringIdentifier (some s)) ∨ ∃ n, ident = b.getIntIdentifier n
  | _ => True

inductive IdentifierEvent where
  | call (call : IdentifierCall) (ok : Bool)
  | invalidate
  deriving Repr, DecidableEq

/-- Every run of the calls of a plugin, each of which may fail to reach the browser. -/
def identifierCalls (b : Browser) (useCache : Bool) : Machine NPIdentifierCache IdentifierEvent where
  init cache := cache = none
  step cache e cache' := match e with
    | .call call ok => call.Valid b ∧ ∃ answer, call.cached b useCache cache ok = .ok (cache', answer)
    | .invalidate => cache' = cache.invalidate

end NSPluginWrapper
