import HuntersGuild.OrderedMaps
import HuntersGuild.StatefulPrograms
import HuntersGuild.WordBytes

/-!
Accounts, the licenses that players log in with, and the index that finds the
accounts by ID and by license.
-/

namespace HuntersGuild.Accounts

open HuntersGuild.StatefulPrograms
open HuntersGuild.WordBytes

structure DcNteLicense where
  serialNumber : String
  accessKey : String
deriving DecidableEq

structure V1V2License where
  serialNumber : UInt32
  accessKey : String
deriving DecidableEq

structure GcLicense where
  serialNumber : UInt32
  accessKey : String
  password : String
deriving DecidableEq

structure XbLicense where
  gamertag : String
  userId : UInt64
  accountId : UInt64
deriving DecidableEq

structure BbLicense where
  username : String
  password : String
deriving DecidableEq

/-- An account has a table of licenses of each kind. -/
inductive LicenseKind where
  | dcNte
  | dc
  | pc
  | gc
  | xb
  | bb
deriving DecidableEq

namespace LicenseKind

/-- In the order of the source. -/
def all : List LicenseKind := [.dcNte, .dc, .pc, .gc, .xb, .bb]

abbrev Key : LicenseKind → Type
  | .dcNte => String
  | .dc => UInt32
  | .pc => UInt32
  | .gc => UInt32
  | .xb => UInt64
  | .bb => String

abbrev License : LicenseKind → Type
  | .dcNte => DcNteLicense
  | .dc => V1V2License
  | .pc => V1V2License
  | .gc => GcLicense
  | .xb => XbLicense
  | .bb => BbLicense

/-- The serial number, user ID or username of a license. -/
def keyOf : (kind : LicenseKind) → License kind → Key kind
  | .dcNte => DcNteLicense.serialNumber
  | .dc => V1V2License.serialNumber
  | .pc => V1V2License.serialNumber
  | .gc => GcLicense.serialNumber
  | .xb => XbLicense.userId
  | .bb => BbLicense.username

instance : (kind : LicenseKind) → Ord (Key kind)
  | .dcNte => inferInstanceAs (Ord String)
  | .dc => inferInstanceAs (Ord UInt32)
  | .pc => inferInstanceAs (Ord UInt32)
  | .gc => inferInstanceAs (Ord UInt32)
  | .xb => inferInstanceAs (Ord UInt64)
  | .bb => inferInstanceAs (Ord String)

instance : (kind : LicenseKind) → Std.TransCmp (compare : Key kind → Key kind → Ordering)
  | .dcNte => inferInstanceAs (Std.TransCmp (compare : String → String → Ordering))
  | .dc => inferInstanceAs (Std.TransCmp (compare : UInt32 → UInt32 → Ordering))
  | .pc => inferInstanceAs (Std.TransCmp (compare : UInt32 → UInt32 → Ordering))
  | .gc => inferInstanceAs (Std.TransCmp (compare : UInt32 → UInt32 → Ordering))
  | .xb => inferInstanceAs (Std.TransCmp (compare : UInt64 → UInt64 → Ordering))
  | .bb => inferInstanceAs (Std.TransCmp (compare : String → String → Ordering))

instance : (kind : LicenseKind) → Std.LawfulEqCmp (compare : Key kind → Key kind → Ordering)
  | .dcNte => inferInstanceAs (Std.LawfulEqCmp (compare : String → String → Ordering))
  | .dc => inferInstanceAs (Std.LawfulEqCmp (compare : UInt32 → UInt32 → Ordering))
  | .pc => inferInstanceAs (Std.LawfulEqCmp (compare : UInt32 → UInt32 → Ordering))
  | .gc => inferInstanceAs (Std.LawfulEqCmp (compare : UInt32 → UInt32 → Ordering))
  | .xb => inferInstanceAs (Std.LawfulEqCmp (compare : UInt64 → UInt64 → Ordering))
  | .bb => inferInstanceAs (Std.LawfulEqCmp (compare : String → String → Ordering))

instance : (kind : LicenseKind) → DecidableEq (Key kind)
  | .dcNte => inferInstanceAs (DecidableEq String)
  | .dc => inferInstanceAs (DecidableEq UInt32)
  | .pc => inferInstanceAs (DecidableEq UInt32)
  | .gc => inferInstanceAs (DecidableEq UInt32)
  | .xb => inferInstanceAs (DecidableEq UInt64)
  | .bb => inferInstanceAs (DecidableEq String)

/-- What `add_locked` says when a license is in the index already. -/
def alreadyExists : LicenseKind → String
  | .dcNte => "account already exists with this DC NTE serial number"
  | .dc => "account already exists with this DC serial number"
  | .pc => "account already exists with this PC NTE serial number"
  | .gc => "account already exists with this GC serial number"
  | .xb => "account already exists with this XB user ID"
  | .bb => "account already exists with this BB username"

/-- The word for the key of a license in the other messages. -/
def keyName : LicenseKind → String
  | .dcNte => "serial number"
  | .dc => "serial number"
  | .pc => "serial number"
  | .gc => "serial number"
  | .xb => "user ID"
  | .bb => "username"

abbrev LicenseMap (kind : LicenseKind) : Type := Std.ExtTreeMap (Key kind) (License kind)

end LicenseKind

open LicenseKind

inductive Flag where
  | isSharedAccount
deriving DecidableEq

def Flag.value : Flag → UInt32
  | .isSharedAccount => 0x80000000

/-- An account, with the fields that the index uses. -/
structure Account where
  accountId : UInt32
  flags : UInt32
  banEndTime : UInt64
  isTemporary : Bool
  licenses : (kind : LicenseKind) → LicenseMap kind

namespace Account

def new : Account where
  accountId := 0
  flags := 0
  banEndTime := 0
  isTemporary := false
  licenses := fun _ => ∅

def dcNteLicenses (self : Account) : LicenseMap .dcNte := self.licenses .dcNte
def dcLicenses (self : Account) : LicenseMap .dc := self.licenses .dc
def pcLicenses (self : Account) : LicenseMap .pc := self.licenses .pc
def gcLicenses (self : Account) : LicenseMap .gc := self.licenses .gc
def xbLicenses (self : Account) : LicenseMap .xb := self.licenses .xb
def bbLicenses (self : Account) : LicenseMap .bb := self.licenses .bb

def checkFlag (flag : Flag) (self : Account) : Bool := self.flags &&& flag.value ≠ 0

/-- Zero stands for no ban. -/
def isBanned (now : UInt64) (self : Account) : Bool :=
  self.banEndTime ≠ 0 ∧ self.banEndTime ≥ now

def withId (accountId : UInt32) (self : Account) : Account := { self with accountId := accountId }

def asTemporary (self : Account) : Account := { self with isTemporary := true }

def withLicense (kind : LicenseKind) (license : License kind) (self : Account) : Account :=
  { self with
    licenses := Function.update self.licenses kind
      ((self.licenses kind).insertIfNew (kind.keyOf license) license) }

def withoutLicense (kind : LicenseKind) (key : Key kind) (self : Account) : Account :=
  { self with licenses := Function.update self.licenses kind ((self.licenses kind).erase key) }

/-- The keys that the licenses of a kind have themselves. -/
def ownKeys (kind : LicenseKind) (self : Account) : List (Key kind) :=
  (self.licenses kind).toList.map fun it => kind.keyOf it.2

end Account

/-- A map of the standard library has its own text for a key that it does not
have. A call that is `endless` does not return. -/
inductive Exception where
  | outOfRange (what : Option String)
  | runtimeError (what : String)
  | logicError (what : String)
  | noUsername
  | incorrectPassword
  | incorrectAccessKey
  | missingAccount
  | accountBanned
  | endless
deriving DecidableEq

/-- Account objects are shared: the index and its callers hold pointers to them. -/
abbrev Pointer := Nat

/-- The index, with the account objects that were made so far. -/
structure AccountIndex where
  accounts : Pointer → Account
  allocated : Nat
  forceAllTemporary : Bool
  byAccountId : Std.ExtTreeMap UInt32 Pointer
  byLicense : (kind : LicenseKind) → Std.ExtTreeMap (Key kind) Pointer

abbrev Program := EStateM Exception AccountIndex

/-- What a player is logged in with: one license of one kind. -/
structure Login where
  accountWasCreated : Bool
  account : Pointer
  kind : LicenseKind
  license : License kind

namespace AccountIndex

def empty (forceAllTemporary : Bool) : AccountIndex where
  accounts := fun _ => .new
  allocated := 0
  forceAllTemporary := forceAllTemporary
  byAccountId := ∅
  byLicense := fun _ => ∅

def byDcNteSerialNumber (self : AccountIndex) : Std.ExtTreeMap String Pointer := self.byLicense .dcNte
def byDcSerialNumber (self : AccountIndex) : Std.ExtTreeMap UInt32 Pointer := self.byLicense .dc
def byPcSerialNumber (self : AccountIndex) : Std.ExtTreeMap UInt32 Pointer := self.byLicense .pc
def byGcSerialNumber (self : AccountIndex) : Std.ExtTreeMap UInt32 Pointer := self.byLicense .gc
def byXbUserId (self : AccountIndex) : Std.ExtTreeMap UInt64 Pointer := self.byLicense .xb
def byBbUsername (self : AccountIndex) : Std.ExtTreeMap String Pointer := self.byLicense .bb

def change (account : Pointer) (f : Account → Account) (self : AccountIndex) : AccountIndex :=
  { self with accounts := Function.update self.accounts account (f (self.accounts account)) }

/-- `make_shared`. -/
def allocate (account : Account) (self : AccountIndex) : AccountIndex :=
  { self with
    accounts := Function.update self.accounts self.allocated account
    allocated := self.allocated + 1 }

def withMap (kind : LicenseKind) (map : Std.ExtTreeMap (Key kind) Pointer) (self : AccountIndex) :
    AccountIndex :=
  { self with byLicense := Function.update self.byLicense kind map }

/-- One of the loops that enter the licenses of an account. -/
def withLicenses (account : Pointer) (kind : LicenseKind) (self : AccountIndex) : AccountIndex :=
  self.withMap kind (((self.accounts account).ownKeys kind).foldl (fun map key => map.insert key account)
    (self.byLicense kind))

/-- One of the loops that take out the licenses of an account. -/
def withoutLicenses (account : Pointer) (kind : LicenseKind) (self : AccountIndex) : AccountIndex :=
  self.withMap kind (((self.accounts account).ownKeys kind).foldl (fun map key => map.erase key)
    (self.byLicense kind))

def withId (account : Pointer) (self : AccountIndex) : AccountIndex :=
  { self with byAccountId := self.byAccountId.insert (self.accounts account).accountId account }

def withoutId (accountId : UInt32) (self : AccountIndex) : AccountIndex :=
  { self with byAccountId := self.byAccountId.erase accountId }

/-! The search for an ID. -/

/-- The condition of the loop. -/
def isUnusable (self : AccountIndex) (accountId : UInt32) : Bool :=
  self.byAccountId.contains accountId || accountId = 0 || accountId = 0xFFFFFFFF

def nextId (accountId : UInt32) : UInt32 := (accountId + 1) &&& 0x7FFFFFFF

/-- The rounds after which the search comes back to IDs that it has tried. -/
def searchRounds : Nat := 0x80000001

/-- The loop for at most a number of rounds. -/
def findId (self : AccountIndex) : Nat → UInt32 → Option UInt32
  | 0, _ => none
  | rounds + 1, accountId =>
    if self.isUnusable accountId then self.findId rounds (nextId accountId) else some accountId

end AccountIndex

open AccountIndex

def checkThat (condition : Bool) (e : Exception) : Except Exception Unit :=
  if condition then .ok () else .error e

/-- The licenses of an account are looked up kind after kind. -/
def checkUnregistered (account : Pointer) (kind : LicenseKind) : Program Unit := do
  let s ← get
  fromExcept (checkThat (((s.accounts account).ownKeys kind).all fun key => key ∉ s.byLicense kind)
    (.runtimeError kind.alreadyExists))

def addLocked (account : Pointer) : Program Unit := do
  modify fun s => if s.forceAllTemporary then s.change account .asTemporary else s
  LicenseKind.all.forM (checkUnregistered account)
  let s ← get
  match s.findId searchRounds (s.accounts account).accountId with
  | none => throw .endless
  | some accountId =>
    modify (change account (.withId accountId))
    modify (AccountIndex.withId account)
    modify fun s => LicenseKind.all.foldl (fun s kind => s.withLicenses account kind) s

def add (account : Pointer) : Program Unit := addLocked account

def remove (accountId : UInt32) : Program Unit := do
  let s ← get
  match s.byAccountId[accountId]? with
  | none => throw (.outOfRange "account does not exist")
  | some account =>
    modify (withoutId accountId)
    modify fun s => LicenseKind.all.foldl (fun s kind => s.withoutLicenses account kind) s

/-! Licenses. -/

/-- The index is changed first, and changed back when the account has the
license already. -/
def addLicense (kind : LicenseKind) (account : Pointer) (license : License kind) : Program Unit := do
  let s ← get
  if (s.byLicense kind).contains (kind.keyOf license) then
    throw (.runtimeError (kind.keyName ++ " already registered"))
  else
    modify (withMap kind ((s.byLicense kind).insertIfNew (kind.keyOf license) account))
    if ((s.accounts account).licenses kind).contains (kind.keyOf license) then
      modify fun s => s.withMap kind ((s.byLicense kind).erase (kind.keyOf license))
      throw (.logicError (kind.keyName ++ " registered in account but not in account index"))
    else
      modify (change account (.withLicense kind license))

def removeLicense (kind : LicenseKind) (account : Pointer) (key : Key kind) : Program Unit := do
  let s ← get
  match ((s.accounts account).licenses kind)[key]? with
  | none => throw (.runtimeError "license not registered to account")
  | some license =>
    if (s.byLicense kind).contains (kind.keyOf license) then
      modify (withMap kind ((s.byLicense kind).erase (kind.keyOf license)))
      modify (change account (.withoutLicense kind key))
    else
      throw (.runtimeError "license registered in account but not in account index")

def addDcNteLicense (account : Pointer) (license : DcNteLicense) : Program Unit :=
  addLicense .dcNte account license

def addDcLicense (account : Pointer) (license : V1V2License) : Program Unit :=
  addLicense .dc account license

def addPcLicense (account : Pointer) (license : V1V2License) : Program Unit :=
  addLicense .pc account license

def addGcLicense (account : Pointer) (license : GcLicense) : Program Unit :=
  addLicense .gc account license

def addXbLicense (account : Pointer) (license : XbLicense) : Program Unit :=
  addLicense .xb account license

def addBbLicense (account : Pointer) (license : BbLicense) : Program Unit :=
  addLicense .bb account license

def removeDcNteLicense (account : Pointer) (serialNumber : String) : Program Unit :=
  removeLicense .dcNte account serialNumber

def removeDcLicense (account : Pointer) (serialNumber : UInt32) : Program Unit :=
  removeLicense .dc account serialNumber

def removePcLicense (account : Pointer) (serialNumber : UInt32) : Program Unit :=
  removeLicense .pc account serialNumber

def removeGcLicense (account : Pointer) (serialNumber : UInt32) : Program Unit :=
  removeLicense .gc account serialNumber

def removeXbLicense (account : Pointer) (userId : UInt64) : Program Unit :=
  removeLicense .xb account userId

def removeBbLicense (account : Pointer) (username : String) : Program Unit :=
  removeLicense .bb account username

/-! Logging in. -/

/-- The hash of some bytes, from the start or going on from another hash. -/
abbrev Fnv1a32 := List UInt8 → Option UInt32 → UInt32

def stringBytes (text : String) : List UInt8 := text.toUTF8.toList

def createTemporaryAccountForSharedAccount (fnv1a32 : Fnv1a32) (account : Pointer)
    (variationData : String) : Program Pointer := do
  let s ← get
  let source := s.accounts account
  let hash := fnv1a32 (littleEndian 4 source.accountId.toNat) none
  set (s.allocate (source.asTemporary.withId (fnv1a32 (stringBytes variationData) hash)))
  return s.allocated

namespace AccountIndex

/-- The account with a license, when the license is what the player says and the
account is not banned. -/
def authenticate (kind : LicenseKind) (key : Key kind) (now : UInt64)
    (check : Account → License kind → Except Exception Unit) (self : AccountIndex) :
    Except Exception (Pointer × License kind) :=
  match (self.byLicense kind)[key]? with
  | none => .error (.outOfRange none)
  | some account =>
    match ((self.accounts account).licenses kind)[key]? with
    | none => .error (.outOfRange none)
    | some license => do
      check (self.accounts account) license
      checkThat (!(self.accounts account).isBanned now) .accountBanned
      return (account, license)

end AccountIndex

/-- A login with a license that the index has. -/
def logIn (kind : LicenseKind) (key : Key kind) (now : UInt64)
    (check : Account → License kind → Except Exception Unit) : Program Login := do
  let s ← get
  let (account, license) ← fromExcept (s.authenticate kind key now check)
  return ⟨false, account, kind, license⟩

/-- A shared account is not logged in to itself: each player gets a copy. -/
def separateIfShared (fnv1a32 : Fnv1a32) (variationData : String) (login : Login) : Program Login := do
  let s ← get
  if (s.accounts login.account).checkFlag .isSharedAccount then
    let account ← createTemporaryAccountForSharedAccount fnv1a32 login.account variationData
    return { login with account := account }
  else
    return login

def checkAccessKey (expected accessKey : String) : Except Exception Unit :=
  checkThat (expected = accessKey) .incorrectAccessKey

/-- The password of a license is checked only when there is one to check. -/
def checkPassword (expected : String) : Option String → Except Exception Unit
  | none => .ok ()
  | some password => checkThat (expected = password) .incorrectPassword

def checkAccessKeyUnlessShared (account : Account) (expected accessKey : String) :
    Except Exception Unit :=
  if account.checkFlag .isSharedAccount then .ok () else checkAccessKey expected accessKey

def fromDcNteCredentialsLocked (now : UInt64) (serialNumber accessKey : String) : Program Login :=
  logIn .dcNte serialNumber now fun _ license => checkAccessKey license.accessKey accessKey

def fromDcCredentialsLocked (fnv1a32 : Fnv1a32) (now : UInt64) (serialNumber : UInt32)
    (accessKey characterName : String) : Program Login := do
  let login ← logIn .dc serialNumber now fun account license =>
    checkAccessKeyUnlessShared account license.accessKey accessKey
  separateIfShared fnv1a32 (accessKey ++ ":" ++ characterName) login

def fromPcCredentialsLocked (fnv1a32 : Fnv1a32) (now : UInt64) (serialNumber : UInt32)
    (accessKey characterName : String) : Program Login := do
  let login ← logIn .pc serialNumber now fun account license =>
    checkAccessKeyUnlessShared account license.accessKey accessKey
  separateIfShared fnv1a32 (accessKey ++ ":" ++ characterName) login

def fromGcCredentialsLocked (fnv1a32 : Fnv1a32) (now : UInt64) (serialNumber : UInt32)
    (accessKey : String) (password : Option String) (characterName : String) : Program Login := do
  let login ← logIn .gc serialNumber now fun account license => do
    checkAccessKeyUnlessShared account license.accessKey accessKey
    checkPassword license.password password
  separateIfShared fnv1a32 (accessKey ++ ":" ++ characterName) login

def fromXbCredentialsLocked (now : UInt64) (userId : UInt64) : Program Login :=
  logIn .xb userId now fun _ _ => .ok ()

def fromBbCredentialsLocked (now : UInt64) (username : String) (password : Option String) :
    Program Login :=
  logIn .bb username now fun _ license => checkPassword license.password password

/-- Only a missing key makes the callers go on. -/
def unlessOutOfRange (x y : Program Login) : Program Login :=
  tryCatch x fun
    | .outOfRange _ => y
    | e => throw e

/-- A new account with one license. -/
def createAccount (accountId : UInt32) (isTemporary : Bool) (kind : LicenseKind)
    (license : License kind) : Program Login := do
  let s ← get
  let account := s.allocated
  set (s.allocate ({ Account.new with
    accountId := accountId
    isTemporary := isTemporary }.withLicense kind license))
  addLocked account
  return ⟨true, account, kind, license⟩

/-- The license is looked up with the lock for readers first. -/
def fromCredentials (locked : Program Login) (allowCreate : Bool) (create : Program Login) :
    Program Login :=
  unlessOutOfRange locked
    (unlessOutOfRange locked (if allowCreate then create else throw .missingAccount))

def fromDcNteCredentials (fnv1a32 : Fnv1a32) (now : UInt64) (serialNumber accessKey : String)
    (allowCreate : Bool) : Program Login :=
  if serialNumber.isEmpty then
    throw .noUsername
  else
    fromCredentials (fromDcNteCredentialsLocked now serialNumber accessKey) allowCreate
      (createAccount (fnv1a32 (stringBytes serialNumber) none &&& 0x7FFFFFFF) false .dcNte
        ⟨serialNumber, accessKey⟩)

def fromDcCredentials (fnv1a32 : Fnv1a32) (now : UInt64) (serialNumber : UInt32)
    (accessKey characterName : String) (allowCreate : Bool) : Program Login :=
  if serialNumber = 0 then
    throw .noUsername
  else
    fromCredentials (fromDcCredentialsLocked fnv1a32 now serialNumber accessKey characterName)
      allowCreate (createAccount serialNumber false .dc ⟨serialNumber, accessKey⟩)

/-- `random` is what the random source gives. -/
def fromPcNteCredentials (random guildCardNumber : UInt32) (allowCreate : Bool) : Program Login :=
  if ¬ allowCreate then
    throw .missingAccount
  else
    let accountId := if guildCardNumber = 0xFFFFFFFF then random &&& 0x7FFFFFFF else guildCardNumber
    createAccount accountId true .pc ⟨accountId, ""⟩

def fromPcCredentials (fnv1a32 : Fnv1a32) (now : UInt64) (serialNumber : UInt32)
    (accessKey characterName : String) (allowCreate : Bool) : Program Login :=
  if serialNumber = 0 then
    throw .noUsername
  else
    fromCredentials (fromPcCredentialsLocked fnv1a32 now serialNumber accessKey characterName)
      allowCreate (createAccount serialNumber false .pc ⟨serialNumber, accessKey⟩)

def fromGcCredentials (fnv1a32 : Fnv1a32) (now : UInt64) (serialNumber : UInt32) (accessKey : String)
    (password : Option String) (characterName : String) (allowCreate : Bool) : Program Login :=
  if serialNumber = 0 then
    throw .noUsername
  else
    fromCredentials (fromGcCredentialsLocked fnv1a32 now serialNumber accessKey password characterName)
      (allowCreate && password.isSome)
      (createAccount serialNumber false .gc ⟨serialNumber, accessKey, password.getD ""⟩)

def fromXbCredentials (fnv1a32 : Fnv1a32) (now : UInt64) (gamertag : String)
    (userId accountId : UInt64) (allowCreate : Bool) : Program Login :=
  if userId = 0 ∨ accountId = 0 then
    throw .incorrectAccessKey
  else
    fromCredentials (fromXbCredentialsLocked now userId) allowCreate
      (createAccount (fnv1a32 (stringBytes gamertag) none &&& 0x7FFFFFFF) false .xb
        ⟨gamertag, userId, accountId⟩)

def fromBbCredentials (fnv1a32 : Fnv1a32) (now : UInt64) (username : String)
    (password : Option String) (allowCreate : Bool) : Program Login :=
  if username.isEmpty ∨ password.any String.isEmpty then
    throw .noUsername
  else
    fromCredentials (fromBbCredentialsLocked now username password)
      (allowCreate && password.isSome)
      (createAccount (fnv1a32 (stringBytes username) none &&& 0x7FFFFFFF) false .bb
        ⟨username, password.getD ""⟩)

end HuntersGuild.Accounts
