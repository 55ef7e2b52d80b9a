import Sloppy.Lib.CodeUnits

/-! # The keyspace of a Redis server

Strings and sets with their expiry, and the commands that the cache scripts are made of. A command on a key
of the other kind has no effect here; the scripts never issue one. Most commands can only lose things, which
`Loses` says once for all of them.
-/

namespace Sloppy.Redis

open Lib.CodeUnits List

inductive Content where
  | string (text : Text)
  | set (members : List Text)
  deriving DecidableEq

structure Stored where
  content : Content
  expires : Option Nat
  deriving DecidableEq

def Keyspace := Text → Option Stored

namespace Keyspace

def empty : Keyspace := fun _ => none

def put (db : Keyspace) (key : Text) (stored : Option Stored) : Keyspace :=
  fun other => if other = key then stored else db other

def string (db : Keyspace) (key : Text) : Option Text :=
  match db key with
  | some ⟨.string text, _⟩ => some text
  | _ => none

def members (db : Keyspace) (key : Text) : List Text :=
  match db key with
  | some ⟨.set members, _⟩ => members
  | _ => []

/-- The moment at which a key expires, if it exists and has one. -/
def expiry (db : Keyspace) (key : Text) : Option Nat := (db key).bind Stored.expires

/-! ## Commands -/

def setPx (key text : Text) (expires : Nat) (db : Keyspace) : Keyspace :=
  db.put key (some ⟨.string text, some expires⟩)

def del (key : Text) (db : Keyspace) : Keyspace := db.put key none

def sadd (key member : Text) (db : Keyspace) : Keyspace :=
  match db key with
  | none => db.put key (some ⟨.set [member], none⟩)
  | some ⟨.set members, expires⟩ =>
    if member ∈ members then db else db.put key (some ⟨.set (member :: members), expires⟩)
  | some ⟨.string _, _⟩ => db

/-- SREM; a set without members is gone. -/
def srem (key member : Text) (db : Keyspace) : Keyspace :=
  match db key with
  | some ⟨.set members, expires⟩ =>
    match members.filter fun x => x ≠ member with
    | [] => db.put key none
    | x :: xs => db.put key (some ⟨.set (x :: xs), expires⟩)
  | _ => db

/-- PEXPIRE has no effect on a key that does not exist. -/
def pexpire (key : Text) (expires : Nat) (db : Keyspace) : Keyspace :=
  match db key with
  | some stored => db.put key (some { stored with expires := some expires })
  | none => db

def purge (now : Nat) (db : Keyspace) : Keyspace :=
  fun key => (db key).filter fun stored => stored.expires.all fun expires => now < expires

section Commands

variable {db other : Keyspace} {key name member text x : Text} {expires : Nat}

lemma string_congr (h : db name = other name) : db.string name = other.string name := by
  simp only [string, h]

lemma members_congr (h : db name = other name) : db.members name = other.members name := by
  simp only [members, h]

section Elsewhere

variable (hName : name ≠ key)
include hName

lemma put_of_ne (stored : Option Stored) : db.put key stored name = db name := if_neg hName

lemma setPx_of_ne : db.setPx key text expires name = db name := if_neg hName

lemma del_of_ne : db.del key name = db name := if_neg hName

lemma sadd_of_ne : db.sadd key member name = db name := by
  cases hKey : db key with
  | none => simp only [sadd, hKey, put_of_ne hName]
  | some stored =>
    obtain ⟨_ | members, old⟩ := stored
    · simp only [sadd, hKey]
    · simp only [sadd, hKey]
      split
      · rfl
      · exact put_of_ne hName _

lemma srem_of_ne : db.srem key member name = db name := by
  cases hKey : db key with
  | none => simp only [srem, hKey]
  | some stored =>
    obtain ⟨_ | members, old⟩ := stored
    · simp only [srem, hKey]
    · simp only [srem, hKey]
      cases members.filter fun x => x ≠ member <;> exact put_of_ne hName _

lemma pexpire_of_ne : db.pexpire key expires name = db name := by
  cases hKey : db key <;> simp only [pexpire, hKey, put_of_ne hName]

end Elsewhere

lemma pexpire_of_none (hKey : db key = none) : db.pexpire key expires = db := by
  rw [pexpire, hKey]

lemma foldl_of_ne {α : Type} {step : Keyspace → α → Keyspace} {items : List α}
    (hStep : ∀ db, ∀ item ∈ items, step db item name = db name) (db : Keyspace) :
    items.foldl step db name = db name := by
  induction items generalizing db with
  | nil => rfl
  | cons item items ih =>
    rw [foldl_cons, ih fun later after hAfter => hStep later after (mem_cons_of_mem item hAfter)]
    exact hStep db item mem_cons_self

lemma string_setPx : (db.setPx key text expires).string name = if name = key then some text else db.string name := by
  split
  next h =>
    simp only [setPx, string, put, if_pos h]
  next h =>
    exact string_congr (setPx_of_ne h)

lemma string_del (hGone : (db.del key).string name = some text) : db.string name = some text := by
  by_cases hName : name = key
  · simp [string, del, put, hName] at hGone
  · rwa [string_congr (del_of_ne hName)] at hGone

lemma string_sadd : (db.sadd key member).string name = db.string name := by
  by_cases hName : name = key
  · subst hName
    unfold sadd
    split <;> rename_i h
    · simp [string, put, h]
    · split
      · rfl
      · simp [string, put, h]
    · rfl
  · exact string_congr (sadd_of_ne hName)

lemma string_srem : (db.srem key member).string name = db.string name := by
  by_cases hName : name = key
  · subst hName
    unfold srem
    split
    next h =>
      split <;> simp [string, put, h]
    · rfl
  · exact string_congr (srem_of_ne hName)

lemma string_pexpire : (db.pexpire key expires).string name = db.string name := by
  by_cases hName : name = key
  · subst hName
    unfold pexpire
    split
    next stored h =>
      obtain ⟨content, old⟩ := stored
      cases content <;> simp [string, put, h]
    · rfl
  · exact string_congr (pexpire_of_ne hName)

lemma members_pexpire : (db.pexpire key expires).members name = db.members name := by
  by_cases hName : name = key
  · subst hName
    unfold pexpire
    split
    next stored h =>
      obtain ⟨content, old⟩ := stored
      cases content <;> simp [members, put, h]
    · rfl
  · exact members_congr (pexpire_of_ne hName)

/-- SADD has no effect on a key that holds a string. -/
lemma members_sadd (hPlain : db.string name = none) :
    x ∈ (db.sadd key member).members name ↔ x ∈ db.members name ∨ (name = key ∧ x = member) := by
  by_cases hName : name = key
  · subst hName
    unfold sadd
    split <;> rename_i h
    · simp [members, put, h]
    · split
      next hIn =>
        have hOld : member ∈ db.members name := by simpa only [members, h] using hIn
        exact ⟨.inl, fun hEither => hEither.elim id fun hNew => hNew.2 ▸ hOld⟩
      · simp [members, put, h, or_comm]
    · simp [string, h] at hPlain
  · rw [members_congr (sadd_of_ne hName)]
    exact ⟨.inl, fun hEither => hEither.elim id fun hNew => absurd hNew.1 hName⟩

lemma members_del (hMem : x ∈ (db.del key).members name) : x ∈ db.members name := by
  by_cases hName : name = key
  · simp [members, del, put, hName] at hMem
  · rwa [members_congr (del_of_ne hName)] at hMem

lemma members_srem : x ∈ (db.srem key member).members name ↔ x ∈ db.members name ∧ ¬(name = key ∧ x = member) := by
  by_cases hName : name = key
  · subst hName
    unfold srem
    split
    next old expires h =>
      have hFiltered : ∀ y, y ∈ old.filter (fun z => z ≠ member) ↔ y ∈ old ∧ y ≠ member := by simp
      have hOld : db.members name = old := by simp only [members, h]
      rw [hOld]
      split <;> rename_i hRest <;> simp only [members, put, if_true, true_and] <;> rw [← hFiltered, hRest]
    next h =>
      have hEmpty : db.members name = [] := by
        unfold members
        split
        next old expires hSet =>
          exact absurd hSet (h old expires)
        · rfl
      simp [hEmpty]
  · rw [members_congr (srem_of_ne hName)]
    exact ⟨fun h => ⟨h, fun hBoth => hName hBoth.1⟩, And.left⟩

lemma expiry_sadd : (db.sadd key member).expiry name = db.expiry name := by
  by_cases hName : name = key
  · subst hName
    unfold sadd
    split <;> rename_i h
    · simp [expiry, put, h]
    · split
      · rfl
      · simp [expiry, put, h]
    · rfl
  · rw [expiry, expiry, sadd_of_ne hName]

lemma expiry_pexpire {moment : Nat} (h : moment ∈ (db.pexpire key expires).expiry name) :
    moment ∈ db.expiry name ∨ (name = key ∧ moment = expires) := by
  by_cases hName : name = key
  · subst hName
    cases hStored : db name with
    | none => exact .inl (by simpa only [pexpire, hStored] using h)
    | some stored => exact .inr ⟨rfl, by simpa [pexpire, hStored, expiry, put, eq_comm] using h⟩
  · rw [expiry, pexpire_of_ne hName] at h
    exact .inl h

end Commands

/-! ## Commands that only lose things -/

structure Loses (before after : Keyspace) : Prop where
  strings : ∀ key text, after.string key = some text → before.string key = some text
  members : ∀ key x, x ∈ after.members key → x ∈ before.members key

section Loses

variable {a b c : Keyspace}

lemma Loses.refl (db : Keyspace) : Loses db db := ⟨fun _ _ h => h, fun _ _ h => h⟩

lemma Loses.trans (h : Loses a b) (hNext : Loses b c) : Loses a c where
  strings key text hText := h.strings key text (hNext.strings key text hText)
  members key x hMem := h.members key x (hNext.members key x hMem)

lemma Loses.foldl {α : Type} {step : Keyspace → α → Keyspace} (hStep : ∀ db item, Loses db (step db item))
    (items : List α) (db : Keyspace) : Loses db (items.foldl step db) := by
  induction items generalizing db with
  | nil => exact .refl db
  | cons item items ih => exact (hStep db item).trans (ih (step db item))

lemma Loses.string_eq_none (h : Loses a b) {key : Text} (hNone : a.string key = none) : b.string key = none := by
  cases hText : b.string key with
  | none => rfl
  | some text => exact absurd (hNone.symm.trans (h.strings key text hText)) (by simp)

lemma srem_loses (key member : Text) (db : Keyspace) : Loses db (db.srem key member) where
  strings _ _ hText := by rwa [string_srem] at hText
  members _ _ hMem := (members_srem.mp hMem).1

lemma del_loses (key : Text) (db : Keyspace) : Loses db (db.del key) := ⟨fun _ _ => string_del, fun _ _ => members_del⟩

lemma pexpire_loses (key : Text) (expires : Nat) (db : Keyspace) : Loses db (db.pexpire key expires) where
  strings _ _ hText := by rwa [string_pexpire] at hText
  members _ _ hMem := by rwa [members_pexpire] at hMem

lemma purge_cases (now : Nat) (db : Keyspace) (key : Text) :
    db.purge now key = db key ∨ db.purge now key = none ∧ ∃ expires ∈ db.expiry key, expires ≤ now := by
  unfold purge expiry
  cases db key with
  | none => exact .inl rfl
  | some stored =>
    rw [Option.filter_some]
    split
    · exact .inl rfl
    next hExpired =>
      cases hExpires : stored.expires <;> simp_all

lemma purge_loses (now : Nat) (db : Keyspace) : Loses db (db.purge now) where
  strings key text hText := by
    rcases purge_cases now db key with h | ⟨h, -⟩
    · rwa [string_congr h] at hText
    · simp [string, h] at hText
  members key x hMem := by
    rcases purge_cases now db key with h | ⟨h, -⟩
    · rwa [members_congr h] at hMem
    · simp [Keyspace.members, h] at hMem

end Loses

end Keyspace

end Sloppy.Redis
