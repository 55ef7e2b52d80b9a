import Sloppy.Redis.Keyspace
import Sloppy.Lib.Run

/-! # The Redis cache

`RedisCache` of `cache.js` over the keyspace of the server. Each step is one command or script that reaches the server,
with time passing in between. Beside the keyspace the state keeps what was last set under each key and not removed
since, and when the reverse sets that were touched since the last set are to expire.
-/

namespace Sloppy.Cache

open Lib.CodeUnits Lib.Run Redis List

/-! ## Names -/

/-- FNV-1a over the low bytes of the code units. -/
def fnv1a32 (text : Text) : UInt32 :=
  text.foldl (fun hash unit => (hash ^^^ (unit.toUInt32 &&& 0xff)) * 0x01000193) 0x811c9dc5

def stableHash (value : Text) : Text := asciiText "fnv1a32:" ++ hexDigits 8 (fnv1a32 value).toNat

structure RedisCacheKeys where
  entry : Text
  tags : Text
  keys : Text
  deriving DecidableEq

/-- `stem` is the prefix of the cache followed by its name. -/
def redisCacheKeys (stem key : Text) : RedisCacheKeys where
  entry := stem ++ asciiText ":entry:" ++ stableHash key
  tags := stem ++ asciiText ":entry:" ++ stableHash key ++ asciiText ":tags"
  keys := stem ++ asciiText ":keys"

def redisTagKey (stem tag : Text) : Text := stem ++ asciiText ":tag:" ++ stableHash tag

section Names

variable {stem a b : Text}

lemma length_stableHash (value : Text) : (stableHash value).length = 16 := by
  rfl

lemma entry_eq_iff : (redisCacheKeys stem a).entry = (redisCacheKeys stem b).entry ↔ stableHash a = stableHash b :=
  append_right_inj _

lemma tags_eq_iff : (redisCacheKeys stem a).tags = (redisCacheKeys stem b).tags ↔ stableHash a = stableHash b :=
  (append_left_inj _).trans entry_eq_iff

lemma redisTagKey_eq_iff : redisTagKey stem a = redisTagKey stem b ↔ stableHash a = stableHash b :=
  append_right_inj _

lemma stem_append_ne {u v : UInt16} {s t : Text} (h : u ≠ v) : stem ++ 58 :: u :: s ≠ stem ++ 58 :: v :: t := by
  intro hEq
  exact h (List.cons.inj (List.cons.inj (append_cancel_left hEq)).2).1

lemma entry_ne_tags : (redisCacheKeys stem a).entry ≠ (redisCacheKeys stem b).tags := by
  intro h
  have hLen := congrArg List.length h
  simp only [redisCacheKeys, length_append, length_stableHash] at hLen
  have hSuffix : (asciiText ":tags").length = 5 := rfl
  omega

lemma entry_ne_keys : (redisCacheKeys stem a).entry ≠ (redisCacheKeys stem b).keys := by
  simp only [redisCacheKeys, append_assoc]
  exact stem_append_ne (by decide)

lemma tags_ne_keys : (redisCacheKeys stem a).tags ≠ (redisCacheKeys stem b).keys := by
  simp only [redisCacheKeys, append_assoc]
  exact stem_append_ne (by decide)

lemma entry_ne_tagKey : (redisCacheKeys stem a).entry ≠ redisTagKey stem b := by
  simp only [redisCacheKeys, redisTagKey, append_assoc]
  exact stem_append_ne (by decide)

lemma tags_ne_tagKey : (redisCacheKeys stem a).tags ≠ redisTagKey stem b := by
  simp only [redisCacheKeys, redisTagKey, append_assoc]
  exact stem_append_ne (by decide)

lemma tagKey_ne_keys : redisTagKey stem a ≠ (redisCacheKeys stem b).keys := by
  simp only [redisCacheKeys, redisTagKey, append_assoc]
  exact stem_append_ne (by decide)

end Names

/-! ## The scripts -/

/-- The head of three scripts: the entry leaves the tag sets that its reverse set lists, and that set is deleted. -/
def untag (reverseKey entry : Text) (db : Keyspace) : Keyspace :=
  ((db.members reverseKey).foldl (fun db tagKey => db.srem tagKey entry) db).del reverseKey

def addTag (keys : RedisCacheKeys) (expires : Nat) (db : Keyspace) (tagKey : Text) : Keyspace :=
  (((db.sadd tagKey keys.entry).sadd keys.tags tagKey).sadd keys.keys tagKey).pexpire tagKey expires

/-- `REDIS_SET_CACHE_SCRIPT`. The reverse set of the entry is deleted before its expiry is set, so the set that
the loop then builds has none. -/
def setScript (keys : RedisCacheKeys) (tagKeys : List Text) (encoded : Text) (ttlMs indexTtlMs now : Nat)
    (db : Keyspace) : Keyspace :=
  let stored := (untag keys.tags keys.entry db).setPx keys.entry encoded (now + ttlMs)
  let listed := (stored.sadd keys.keys keys.entry).pexpire keys.keys (now + indexTtlMs)
  let indexed :=
    if tagKeys = [] then listed else (listed.sadd keys.keys keys.tags).pexpire keys.tags (now + indexTtlMs)
  tagKeys.foldl (addTag keys (now + indexTtlMs)) indexed

/-- `REDIS_REMOVE_CACHE_SCRIPT`. -/
def removeScript (keys : RedisCacheKeys) (db : Keyspace) : Keyspace :=
  (((untag keys.tags keys.entry db).srem keys.keys keys.entry).srem keys.keys keys.tags).del keys.entry

def dropEntry (keysKey : Text) (db : Keyspace) (key : Text) : Keyspace :=
  let reverseKey := key ++ asciiText ":tags"
  (((untag reverseKey key db).del key).srem keysKey key).srem keysKey reverseKey

/-- `REDIS_INVALIDATE_TAG_SCRIPT`. -/
def invalidateScript (tagKey keysKey : Text) (db : Keyspace) : Keyspace :=
  (((db.members tagKey).foldl (dropEntry keysKey) db).del tagKey).srem keysKey tagKey

def touchAll (names : List Text) (expires : Nat) (db : Keyspace) : Keyspace :=
  names.foldl (fun db name => db.pexpire name expires) db

/-- `REDIS_TOUCH_CACHE_SCRIPT`. -/
def touchScript (keys : RedisCacheKeys) (ttlMs indexTtlMs now : Nat) (db : Keyspace) : Keyspace :=
  if db keys.entry = none then db
  else
    let touched := (db.pexpire keys.entry (now + ttlMs)).pexpire keys.keys (now + indexTtlMs)
    let tags := touched.members keys.tags
    touchAll tags (now + indexTtlMs) (if tags = [] then touched else touched.pexpire keys.tags (now + indexTtlMs))

section Scripts

open Keyspace

variable {keys : RedisCacheKeys} {db : Keyspace} {name entry x : Text} {tagKeys : List Text}

lemma members_untag {reverseKey : Text} (hName : name ≠ reverseKey) :
    x ∈ (untag reverseKey entry db).members name ↔
      x ∈ db.members name ∧ ¬(name ∈ db.members reverseKey ∧ x = entry) := by
  have hLoop : ∀ (listed : List Text) (db : Keyspace),
      x ∈ (listed.foldl (fun db tagKey => db.srem tagKey entry) db).members name ↔
        x ∈ db.members name ∧ ¬(name ∈ listed ∧ x = entry) := by
    intro listed
    induction listed with
    | nil => simp
    | cons tagKey listed ih =>
      intro db
      rw [foldl_cons, ih, members_srem, mem_cons]
      tauto
  rw [untag, members_congr (del_of_ne hName), hLoop]

lemma untag_of_ne {reverseKey : Text} (hName : name ≠ reverseKey) (hOut : name ∉ db.members reverseKey) :
    untag reverseKey entry db name = db name := by
  rw [untag, del_of_ne hName, foldl_of_ne]
  intro db tagKey hListed
  exact srem_of_ne fun hSame => hOut (hSame ▸ hListed)

lemma untag_loses (reverseKey entry : Text) (db : Keyspace) : Loses db (untag reverseKey entry db) :=
  (Loses.foldl (fun db tagKey => srem_loses tagKey entry db) _ db).trans (del_loses reverseKey _)

lemma string_addTags (expires : Nat) : (tagKeys.foldl (addTag keys expires) db).string name = db.string name := by
  induction tagKeys generalizing db with
  | nil => rfl
  | cons tagKey tagKeys ih => rw [foldl_cons, ih, addTag, string_pexpire, string_sadd, string_sadd, string_sadd]

lemma members_addTags (hPlain : db.string name = none) (hKeys : name ≠ keys.keys) (expires : Nat) :
    x ∈ (tagKeys.foldl (addTag keys expires) db).members name ↔
      x ∈ db.members name ∨ (name ∈ tagKeys ∧ x = keys.entry) ∨ (name = keys.tags ∧ x ∈ tagKeys) := by
  induction tagKeys generalizing db with
  | nil => simp
  | cons tagKey tagKeys ih =>
    have hSame : (addTag keys expires db tagKey).string name = none := by
      rw [addTag, string_pexpire, string_sadd, string_sadd, string_sadd, hPlain]
    rw [foldl_cons, ih hSame, addTag, members_pexpire, members_congr (sadd_of_ne hKeys),
      members_sadd (string_sadd.trans hPlain), members_sadd hPlain, mem_cons, mem_cons]
    tauto

lemma string_setScript (encoded : Text) (ttlMs indexTtlMs now : Nat) :
    (setScript keys tagKeys encoded ttlMs indexTtlMs now db).string name =
      if name = keys.entry then some encoded else (untag keys.tags keys.entry db).string name := by
  rw [setScript, string_addTags]
  split
  · rw [string_pexpire, string_sadd, string_setPx]
  · rw [string_pexpire, string_sadd, string_pexpire, string_sadd, string_setPx]

section Set

variable (encoded : Text) (ttlMs indexTtlMs now : Nat)

lemma members_setScript (hPlain : db.string name = none) (hEntry : name ≠ keys.entry) (hKeys : name ≠ keys.keys) :
    x ∈ (setScript keys tagKeys encoded ttlMs indexTtlMs now db).members name ↔
      x ∈ (untag keys.tags keys.entry db).members name ∨ (name ∈ tagKeys ∧ x = keys.entry) ∨
        (name = keys.tags ∧ x ∈ tagKeys) := by
  have hNone := (untag_loses keys.tags keys.entry db).string_eq_none hPlain
  rw [setScript, members_addTags _ hKeys]
  · split
    · rw [members_pexpire, members_congr (sadd_of_ne hKeys), members_congr (setPx_of_ne hEntry)]
    · rw [members_pexpire, members_congr (sadd_of_ne hKeys), members_pexpire, members_congr (sadd_of_ne hKeys),
        members_congr (setPx_of_ne hEntry)]
  · split
    · rw [string_pexpire, string_sadd, string_setPx, if_neg hEntry, hNone]
    · rw [string_pexpire, string_sadd, string_pexpire, string_sadd, string_setPx, if_neg hEntry, hNone]

lemma setScript_of_ne (hEntry : name ≠ keys.entry) (hTags : name ≠ keys.tags) (hKeys : name ≠ keys.keys)
    (hNew : name ∉ tagKeys) (hOld : name ∉ db.members keys.tags) :
    setScript keys tagKeys encoded ttlMs indexTtlMs now db name = db name := by
  rw [setScript, foldl_of_ne]
  · split
    · rw [pexpire_of_ne hKeys, sadd_of_ne hKeys, setPx_of_ne hEntry, untag_of_ne hTags hOld]
    · rw [pexpire_of_ne hTags, sadd_of_ne hKeys, pexpire_of_ne hKeys, sadd_of_ne hKeys, setPx_of_ne hEntry,
        untag_of_ne hTags hOld]
  · intro db tagKey hTag
    have hTagKey : name ≠ tagKey := fun hSame => hNew (hSame ▸ hTag)
    rw [addTag, pexpire_of_ne hTagKey, sadd_of_ne hKeys, sadd_of_ne hTags, sadd_of_ne hTagKey]

/-- The reverse set is missing when its expiry is set, so it has none afterwards. -/
lemma expiry_setScript (hEntry : keys.tags ≠ keys.entry) (hKeys : keys.tags ≠ keys.keys) (hNew : keys.tags ∉ tagKeys) :
    (setScript keys tagKeys encoded ttlMs indexTtlMs now db).expiry keys.tags = none := by
  have hLoop : ∀ (expires : Nat) (start : Keyspace),
      (tagKeys.foldl (addTag keys expires) start).expiry keys.tags = start.expiry keys.tags := by
    intro expires
    induction tagKeys with
    | nil => exact fun _ => rfl
    | cons tagKey tagKeys ih =>
      intro start
      rw [mem_cons, not_or] at hNew
      rw [foldl_cons, ih hNew.2, addTag, expiry, pexpire_of_ne hNew.1, ← expiry, expiry_sadd, expiry_sadd, expiry_sadd]
  have hGone : untag keys.tags keys.entry db keys.tags = none := if_pos rfl
  have hListed : ((setPx keys.entry encoded (now + ttlMs) (untag keys.tags keys.entry db)).sadd keys.keys keys.entry
      |>.pexpire keys.keys (now + indexTtlMs)) keys.tags = none := by
    rw [pexpire_of_ne hKeys, sadd_of_ne hKeys, setPx_of_ne hEntry, hGone]
  rw [setScript, hLoop, expiry]
  split
  · rw [hListed, Option.bind_none]
  · rw [pexpire_of_none ((sadd_of_ne hKeys).trans hListed), sadd_of_ne hKeys, hListed, Option.bind_none]

end Set

lemma touchAll_loses (names : List Text) (expires : Nat) (db : Keyspace) : Loses db (touchAll names expires db) :=
  Loses.foldl (fun db name => pexpire_loses name expires db) names db

lemma touchScript_loses (keys : RedisCacheKeys) (ttlMs indexTtlMs now : Nat) (db : Keyspace) :
    Loses db (touchScript keys ttlMs indexTtlMs now db) := by
  unfold touchScript
  split
  · exact .refl db
  have hTouched := (pexpire_loses keys.entry (now + ttlMs) db).trans (pexpire_loses keys.keys (now + indexTtlMs) _)
  refine hTouched.trans (Loses.trans ?_ (touchAll_loses _ _ _))
  split
  · exact .refl _
  · exact pexpire_loses _ _ _

lemma members_touchScript (ttlMs indexTtlMs now : Nat) :
    (touchScript keys ttlMs indexTtlMs now db).members name = db.members name := by
  have hAll : ∀ (names : List Text) (expires : Nat) (start : Keyspace),
      (touchAll names expires start).members name = start.members name := by
    intro names expires
    induction names with
    | nil => exact fun _ => rfl
    | cons first names ih => exact fun start => (ih _).trans members_pexpire
  unfold touchScript
  split
  · rfl
  · dsimp only
    rw [hAll]
    split
    · rw [members_pexpire, members_pexpire]
    · rw [members_pexpire, members_pexpire, members_pexpire]

lemma expiry_touchScript {ttlMs indexTtlMs now expires : Nat} (hEntry : name ≠ keys.entry) (hKeys : name ≠ keys.keys)
    (hOut : name ∉ db.members keys.tags)
    (h : expires ∈ (touchScript keys ttlMs indexTtlMs now db).expiry name) :
    expires ∈ db.expiry name ∨ (name = keys.tags ∧ expires = now + indexTtlMs) := by
  unfold touchScript at h
  split at h
  · exact .inl h
  have hMembers : ((db.pexpire keys.entry (now + ttlMs)).pexpire keys.keys (now + indexTtlMs)).members keys.tags =
      db.members keys.tags := members_pexpire.trans members_pexpire
  have hTouched : ((db.pexpire keys.entry (now + ttlMs)).pexpire keys.keys (now + indexTtlMs)) name = db name := by
    rw [pexpire_of_ne hKeys, pexpire_of_ne hEntry]
  dsimp only at h
  rw [hMembers, Keyspace.expiry, touchAll, foldl_of_ne] at h
  · split at h
    · rw [hTouched] at h
      exact .inl h
    · rcases expiry_pexpire h with hOld | hNew
      · rw [Keyspace.expiry, hTouched] at hOld
        exact .inl hOld
      · exact .inr hNew
  · intro db tagKey hTag
    exact pexpire_of_ne fun hSame => hOut (hSame ▸ hTag)

lemma removeScript_loses (keys : RedisCacheKeys) (db : Keyspace) : Loses db (removeScript keys db) :=
  (untag_loses _ _ db).trans ((srem_loses _ _ _).trans ((srem_loses _ _ _).trans (del_loses _ _)))

lemma dropEntry_loses (keysKey : Text) (db : Keyspace) (key : Text) : Loses db (dropEntry keysKey db key) :=
  (untag_loses _ _ db).trans ((del_loses _ _).trans ((srem_loses _ _ _).trans (srem_loses _ _ _)))

lemma invalidateScript_loses (tagKey keysKey : Text) (db : Keyspace) : Loses db (invalidateScript tagKey keysKey db) :=
  (Loses.foldl (dropEntry_loses keysKey) _ db).trans ((del_loses _ _).trans (srem_loses _ _ _))

lemma string_removeScript : (removeScript keys db).string keys.entry = none := by
  simp [removeScript, Keyspace.string, del, put]

/-- The script deletes every entry of the tag set. -/
lemma string_invalidateScript {tagKey : Text} (hMem : entry ∈ db.members tagKey) (keysKey : Text) :
    (invalidateScript tagKey keysKey db).string entry = none := by
  have hDropped : ∀ (entries : List Text) (start : Keyspace), entry ∈ entries →
      (entries.foldl (dropEntry keysKey) start).string entry = none := by
    intro entries
    induction entries with
    | nil => exact fun _ hNone => absurd hNone not_mem_nil
    | cons first entries ih =>
      intro start hEntry
      rcases mem_cons.mp hEntry with rfl | hRest
      · refine (Loses.foldl (dropEntry_loses keysKey) entries _).string_eq_none ?_
        rw [dropEntry, string_srem, string_srem]
        simp [Keyspace.string, del, put]
      · exact ih _ hRest
  exact ((del_loses _ _).trans (srem_loses _ _ _)).string_eq_none (hDropped _ db hMem)

lemma removeScript_of_ne (hEntry : name ≠ keys.entry) (hTags : name ≠ keys.tags) (hKeys : name ≠ keys.keys)
    (hOld : name ∉ db.members keys.tags) : removeScript keys db name = db name := by
  rw [removeScript, del_of_ne hEntry, srem_of_ne hKeys, srem_of_ne hKeys, untag_of_ne hTags hOld]

end Scripts

/-! ## The cache -/

structure RedisCache (Value : Type) where
  /-- The prefix of the cache followed by its name. -/
  stem : Text
  defaultTtlMs : Nat
  maxValueBytes : Nat
  maxKeyLength : Nat
  maxTagLength : Nat
  serializeJson : Value → Option Text
  parseJson : Text → Option Value

structure EntryOptions where
  ttlMs : Option Nat
  absoluteExpiration : Option Nat
  tags : List Text

structure LastSet (Value : Type) where
  value : Value
  tags : List Text
  deriving DecidableEq

structure RedisState (Value : Type) where
  now : Nat
  db : Keyspace
  /-- What was last set under a key that has not been removed since. -/
  last : List (Text × LastSet Value)
  /-- For the digests of keys that were touched since they were set, when the reverse set was to expire. -/
  touched : List (Text × Nat)

/-- What the calls send: `set` and `remove` their script, `get` the read and, for an entry it found under a
sliding expiration, the touch, `invalidateTags` one script for each tag. -/
inductive RedisStep (Value : Type) where
  | set (key : Text) (value : Value) (options : EntryOptions)
  | get (key : Text)
  | touch (key : Text) (slidingExpirationMs : Nat)
  | remove (key : Text)
  | invalidateTag (tag : Text)
  | wait (ms : Nat)

def plainText (limit : Nat) (text : Text) : Bool :=
  text.length ≠ 0 && text.length ≤ limit && text.all fun unit => 32 ≤ unit && unit ≠ 127

namespace RedisCache

variable {Value : Type} (cache : RedisCache Value)

def initial : RedisState Value := ⟨0, Keyspace.empty, [], []⟩

def validKey (key : Text) : Bool := plainText cache.maxKeyLength key && key.length ≤ 1024

def validTag (tag : Text) : Bool := plainText 128 tag && plainText cache.maxTagLength tag

def ttlFor (options : EntryOptions) (now : Nat) : Nat :=
  let ends := now + options.ttlMs.getD cache.defaultTtlMs
  let ends := match options.absoluteExpiration with
    | none => ends
    | some moment => min ends moment
  max 1 (ends - now)

def encodeValue (value : Value) : Option Text :=
  (cache.serializeJson value).bind fun text =>
    if cache.maxValueBytes < utf8Length text then none else some (asciiText "J:" ++ text)

/-- Only values that were stored as JSON are read back here. -/
def decodeValue : Text → Option Value
  | 74 :: 58 :: payload => cache.parseJson payload
  | _ => none

def copy (value : Value) : Option Value := (cache.serializeJson value).bind cache.parseJson

def entry (state : RedisState Value) (key : Text) : Option Text :=
  state.db.string (redisCacheKeys cache.stem key).entry

def get (state : RedisState Value) (key : Text) : Option Value :=
  if cache.validKey key then (cache.entry state key).bind cache.decodeValue else none

/-- The text that a set stores, unless its arguments are refused. -/
def accepted (key : Text) (value : Value) (options : EntryOptions) : Option Text :=
  if cache.validKey key && options.tags.all cache.validTag then cache.encodeValue value else none

def set (key : Text) (value : Value) (options : EntryOptions) (state : RedisState Value) : RedisState Value :=
  match cache.accepted key value options with
  | none => state
  | some encoded =>
    let tags := options.tags.dedup
    let ttlMs := cache.ttlFor options state.now
    { state with
      db := setScript (redisCacheKeys cache.stem key) (tags.map (redisTagKey cache.stem)) encoded ttlMs
        (max ttlMs cache.defaultTtlMs) state.now state.db
      last := (key, ⟨value, tags⟩) :: state.last.filter (·.1 ≠ key)
      touched := state.touched.filter (·.1 ≠ stableHash key) }

def remove (key : Text) (state : RedisState Value) : RedisState Value :=
  if cache.validKey key then
    { state with
      db := removeScript (redisCacheKeys cache.stem key) state.db
      last := state.last.filter (·.1 ≠ key) }
  else state

def step (state : RedisState Value) : RedisStep Value → RedisState Value
  | .set key value options => cache.set key value options state
  | .get _ => state
  | .touch key slidingExpirationMs =>
    let indexTtlMs := max slidingExpirationMs cache.defaultTtlMs
    { state with
      db := touchScript (redisCacheKeys cache.stem key) slidingExpirationMs indexTtlMs state.now state.db
      touched := (stableHash key, state.now + indexTtlMs) :: state.touched }
  | .remove key => cache.remove key state
  | .invalidateTag tag =>
    { state with
      db := invalidateScript (redisTagKey cache.stem tag) (redisCacheKeys cache.stem []).keys state.db }
  | .wait ms => { state with now := state.now + ms, db := state.db.purge (state.now + ms) }

/-! ## The map with tags -/

/-- What a map with tags does: a set stores a copy that is there to be read, and to be invalidated by its tags; reads
give nothing or a copy of what was last set under the very key and not removed since; a removal takes the key and leaves
every other key alone; and an invalidation takes entries with the tag only. -/
def Meets (state : RedisState Value) : RedisStep Value → Prop
  | .set key value options => (cache.accepted key value options).isSome →
      cache.get (cache.step state (.set key value options)) key = cache.copy value ∧ ∀ tag ∈ options.tags,
        cache.get (cache.step (cache.step state (.set key value options)) (.invalidateTag tag)) key = none
  | .get key => cache.get state key = none ∨
      ∃ last, (key, last) ∈ state.last ∧ cache.get state key = cache.copy last.value
  | .remove key => cache.get (cache.step state (.remove key)) key = none ∧ ∀ other ∈ state.last, other.1 ≠ key →
      cache.entry (cache.step state (.remove key)) other.1 = cache.entry state other.1
  | .invalidateTag tag => ∀ other ∈ state.last, (cache.entry state other.1).isSome →
      cache.entry (cache.step state (.invalidateTag tag)) other.1 = none → tag ∈ other.2.tags
  | _ => True

def OwnDigest (state : RedisState Value) (key : Text) : Prop :=
  ∀ other ∈ state.last, stableHash other.1 = stableHash key → other.1 = key

/-- No reverse set of the key that was touched since the key was set has come to its end. -/
def InTime (touched : List (Text × Nat)) (now : Nat) (key : Text) : Prop :=
  ∀ touch ∈ touched, touch.1 = stableHash key → now < touch.2

/-- The step names what its digests can tell from what has been set, and a key is set in time. -/
def Tells (state : RedisState Value) : RedisStep Value → Prop
  | .set key _ _ => OwnDigest state key ∧ InTime state.touched state.now key
  | .get key | .remove key => OwnDigest state key
  | .invalidateTag tag => ∀ other ∈ state.last, ∀ own ∈ other.2.tags, stableHash own = stableHash tag → own = tag
  | _ => True

/-! ## The index of the tags -/

/-- Tag sets hold entries and reverse sets hold tag sets. A reverse set expires only as it was touched to, and until
then it lists the tag sets that its entry is in. -/
structure Indexed (stem : Text) (touched : List (Text × Nat)) (now : Nat) (db : Keyspace) : Prop where
  entries : ∀ tag x, x ∈ db.members (redisTagKey stem tag) → ∃ key, x = (redisCacheKeys stem key).entry
  tags : ∀ key x, x ∈ db.members (redisCacheKeys stem key).tags → ∃ tag, x = redisTagKey stem tag
  expiry : ∀ key, ∀ expires ∈ db.expiry (redisCacheKeys stem key).tags,
    ∃ deadline ≤ expires, (stableHash key, deadline) ∈ touched
  listed : ∀ key tag, InTime touched now key →
    (redisCacheKeys stem key).entry ∈ db.members (redisTagKey stem tag) →
    redisTagKey stem tag ∈ db.members (redisCacheKeys stem key).tags

section Index

open Keyspace

variable {stem : Text} {touched : List (Text × Nat)} {now later : Nat} {db after : Keyspace}
  (h : Indexed stem touched now db)
include h

lemma Indexed.not_reverse {key name : Text} (hName : ∀ tag, name ≠ redisTagKey stem tag) :
    name ∉ db.members (redisCacheKeys stem key).tags := by
  intro hMem
  obtain ⟨tag, hTag⟩ := h.tags key name hMem
  exact hName tag hTag

/-- A change that only loses things keeps the index, if each reverse set stays as it was, or is gone while its entry is
in no tag set. -/
lemma Indexed.loses (hLoses : Loses db after) (hLater : now ≤ later)
    (hReverse : ∀ key, after (redisCacheKeys stem key).tags = db (redisCacheKeys stem key).tags ∨
      after (redisCacheKeys stem key).tags = none ∧ (InTime touched later key →
        ∀ tag, (redisCacheKeys stem key).entry ∉ after.members (redisTagKey stem tag))) :
    Indexed stem touched later after where
  entries tag x hMem := h.entries tag x (hLoses.members _ _ hMem)
  tags key x hMem := h.tags key x (hLoses.members _ _ hMem)
  expiry key expires hExpires := by
    rcases hReverse key with hSame | ⟨hGone, -⟩
    · rw [Keyspace.expiry, hSame] at hExpires
      exact h.expiry key expires hExpires
    · rw [Keyspace.expiry, hGone] at hExpires
      cases hExpires
  listed key tag hInTime hMem := by
    rcases hReverse key with hSame | ⟨-, hOut⟩
    · rw [members_congr hSame]
      refine h.listed key tag (fun touch hTouch hKey => ?_) (hLoses.members _ _ hMem)
      exact Nat.lt_of_le_of_lt hLater (hInTime touch hTouch hKey)
    · exact absurd hMem (hOut hInTime tag)

lemma Indexed.untag (key : Text)
    (hLoses : Loses (untag (redisCacheKeys stem key).tags (redisCacheKeys stem key).entry db) after)
    (hSame : ∀ other, after (redisCacheKeys stem other).tags =
      Cache.untag (redisCacheKeys stem key).tags (redisCacheKeys stem key).entry db (redisCacheKeys stem other).tags) :
    Indexed stem touched now after := by
  refine h.loses ((untag_loses _ _ db).trans hLoses) (Nat.le_refl now) fun other => ?_
  rw [hSame]
  by_cases hDigest : stableHash other = stableHash key
  · rw [tags_eq_iff.mpr hDigest, entry_eq_iff.mpr hDigest]
    refine .inr ⟨if_pos rfl, fun hInTime tag hMem => ?_⟩
    obtain ⟨hIn, hOut⟩ := (members_untag tags_ne_tagKey.symm).mp (hLoses.members _ _ hMem)
    rw [← entry_eq_iff.mpr hDigest] at hIn
    have hListed := h.listed other tag hInTime hIn
    rw [tags_eq_iff.mpr hDigest] at hListed
    exact hOut ⟨hListed, rfl⟩
  · exact .inl (untag_of_ne (fun hTags => hDigest (tags_eq_iff.mp hTags)) (h.not_reverse fun _ => tags_ne_tagKey))

lemma Indexed.removeScript (key : Text) : Indexed stem touched now (removeScript (redisCacheKeys stem key) db) := by
  refine h.untag key ((srem_loses _ _ _).trans ((srem_loses _ _ _).trans (del_loses _ _))) fun other => ?_
  rw [Cache.removeScript, del_of_ne entry_ne_tags.symm, srem_of_ne tags_ne_keys, srem_of_ne tags_ne_keys]

lemma Indexed.dropEntry (key other : Text) :
    Indexed stem touched now (dropEntry (redisCacheKeys stem other).keys db (redisCacheKeys stem key).entry) := by
  refine h.untag key ((del_loses _ _).trans ((srem_loses _ _ _).trans (srem_loses _ _ _))) fun other => ?_
  rw [Cache.dropEntry, srem_of_ne tags_ne_keys, srem_of_ne tags_ne_keys, del_of_ne entry_ne_tags.symm]
  rfl

lemma Indexed.purge (ms : Nat) : Indexed stem touched (now + ms) (db.purge (now + ms)) := by
  refine h.loses (purge_loses _ _) (Nat.le_add_right now ms) fun key => ?_
  refine (purge_cases (now + ms) db (redisCacheKeys stem key).tags).imp_right fun ⟨hGone, expires, hExpires, hLe⟩ => ?_
  refine ⟨hGone, fun hInTime => ?_⟩
  obtain ⟨deadline, hDeadline, hTouch⟩ := h.expiry key expires hExpires
  have := hInTime _ hTouch rfl
  omega

/-- Dropping entries keeps the index, and leaves every other entry alone. -/
lemma Indexed.drops {entries : List Text} (hEntries : ∀ entry ∈ entries, ∃ key, entry = (redisCacheKeys stem key).entry)
    (any : Text) :
    Indexed stem touched now (entries.foldl (Cache.dropEntry (redisCacheKeys stem any).keys) db) ∧
      ∀ other, (redisCacheKeys stem other).entry ∉ entries →
        entries.foldl (Cache.dropEntry (redisCacheKeys stem any).keys) db (redisCacheKeys stem other).entry =
          db (redisCacheKeys stem other).entry := by
  induction entries generalizing db with
  | nil => exact ⟨h, fun _ _ => rfl⟩
  | cons entry entries ih =>
    obtain ⟨⟨key, rfl⟩, hRest⟩ := forall_mem_cons.mp hEntries
    obtain ⟨hIndexed, hKept⟩ := ih (h.dropEntry key any) hRest
    refine ⟨hIndexed, fun other hOut => ?_⟩
    rw [mem_cons, not_or] at hOut
    rw [foldl_cons, hKept other hOut.2, Cache.dropEntry, srem_of_ne entry_ne_keys, srem_of_ne entry_ne_keys,
      del_of_ne hOut.1]
    exact untag_of_ne entry_ne_tags (h.not_reverse fun _ => entry_ne_tagKey)

lemma Indexed.invalidateScript (tag any : Text) :
    Indexed stem touched now (invalidateScript (redisTagKey stem tag) (redisCacheKeys stem any).keys db) ∧
      ∀ other, (redisCacheKeys stem other).entry ∉ db.members (redisTagKey stem tag) →
        invalidateScript (redisTagKey stem tag) (redisCacheKeys stem any).keys db (redisCacheKeys stem other).entry =
          db (redisCacheKeys stem other).entry := by
  obtain ⟨hIndexed, hKept⟩ := h.drops (h.entries tag) any
  refine ⟨hIndexed.loses ((del_loses _ _).trans (srem_loses _ _ _)) (Nat.le_refl now) fun key => .inl ?_, ?_⟩
  · rw [Cache.invalidateScript, srem_of_ne tags_ne_keys, del_of_ne tags_ne_tagKey]
  · intro other hOut
    rw [Cache.invalidateScript, srem_of_ne entry_ne_keys, del_of_ne entry_ne_tagKey, hKept other hOut]

lemma Indexed.touchScript (key : Text) (ttlMs indexTtlMs : Nat) : Indexed stem
    ((stableHash key, now + indexTtlMs) :: touched) now
    (touchScript (redisCacheKeys stem key) ttlMs indexTtlMs now db) where
  entries tag x hMem := h.entries tag x (by rwa [members_touchScript] at hMem)
  tags key x hMem := h.tags key x (by rwa [members_touchScript] at hMem)
  expiry other expires hExpires := by
    have hOut : (redisCacheKeys stem other).tags ∉ db.members (redisCacheKeys stem key).tags :=
      h.not_reverse fun _ => tags_ne_tagKey
    rcases expiry_touchScript entry_ne_tags.symm tags_ne_keys hOut hExpires with hOld | ⟨hTags, rfl⟩
    · obtain ⟨deadline, hLe, hMem⟩ := h.expiry other expires hOld
      exact ⟨deadline, hLe, mem_cons_of_mem _ hMem⟩
    · rw [tags_eq_iff.mp hTags]
      exact ⟨_, Nat.le_refl _, mem_cons_self⟩
  listed other tag hInTime hMem := by
    rw [members_touchScript] at hMem ⊢
    exact h.listed other tag (forall_mem_cons.mp hInTime).2 hMem

omit h in
lemma tags_not_tag (key : Text) (tags : List Text) : (redisCacheKeys stem key).tags ∉ tags.map (redisTagKey stem) := by
  intro hMem
  obtain ⟨tag, -, hTag⟩ := mem_map.mp hMem
  exact tags_ne_tagKey hTag.symm

lemma Indexed.setScript_reverse {other key : Text} (hDigest : stableHash other ≠ stableHash key) {tags : List Text}
    {encoded : Text} {ttlMs indexTtlMs moment : Nat} :
    Cache.setScript (redisCacheKeys stem key) (tags.map (redisTagKey stem)) encoded ttlMs indexTtlMs moment db
      (redisCacheKeys stem other).tags = db (redisCacheKeys stem other).tags :=
  setScript_of_ne _ _ _ _ entry_ne_tags.symm (fun hTags => hDigest (tags_eq_iff.mp hTags)) tags_ne_keys
    (tags_not_tag other tags) (h.not_reverse fun _ => tags_ne_tagKey)

section Set

variable (hPlain : ∀ name, (∀ key, (redisCacheKeys stem key).entry ≠ name) → db.string name = none) (key : Text)
  (tags : List Text) (encoded : Text) (ttlMs indexTtlMs : Nat)
include hPlain

omit h in
lemma members_tag_set {tag x : Text} :
    x ∈ (setScript (redisCacheKeys stem key) (tags.map (redisTagKey stem)) encoded ttlMs
      indexTtlMs now db).members (redisTagKey stem tag) ↔
    (x ∈ db.members (redisTagKey stem tag) ∧ ¬(redisTagKey stem tag ∈ db.members (redisCacheKeys stem key).tags ∧
      x = (redisCacheKeys stem key).entry)) ∨
    ((∃ own ∈ tags, stableHash own = stableHash tag) ∧ x = (redisCacheKeys stem key).entry) := by
  rw [members_setScript _ _ _ _ (hPlain _ fun _ => entry_ne_tagKey) entry_ne_tagKey.symm tagKey_ne_keys,
    members_untag tags_ne_tagKey.symm]
  simp [tags_ne_tagKey.symm, redisTagKey_eq_iff]

lemma Indexed.setScript (hInTime : InTime touched now key) : Indexed stem (touched.filter (·.1 ≠ stableHash key)) now
    (setScript (redisCacheKeys stem key) (tags.map (redisTagKey stem)) encoded ttlMs indexTtlMs now db) where
  entries tag x hMem := by
    rcases (members_tag_set hPlain key tags encoded ttlMs indexTtlMs).mp hMem with ⟨hOld, -⟩ | ⟨-, rfl⟩
    · exact h.entries tag x hOld
    · exact ⟨key, rfl⟩
  tags other x hMem := by
    rcases (members_setScript _ _ _ _ (hPlain _ fun _ => entry_ne_tags) entry_ne_tags.symm tags_ne_keys).mp hMem with
      hOld | ⟨hTag, -⟩ | ⟨-, hNew⟩
    · exact h.tags other x ((untag_loses _ _ db).members _ _ hOld)
    · exact absurd hTag (tags_not_tag other tags)
    · obtain ⟨tag, -, rfl⟩ := mem_map.mp hNew
      exact ⟨tag, rfl⟩
  expiry other expires hExpires := by
    by_cases hDigest : stableHash other = stableHash key
    · rw [tags_eq_iff.mpr hDigest, expiry_setScript _ _ _ _ entry_ne_tags.symm tags_ne_keys (tags_not_tag key tags)]
        at hExpires
      cases hExpires
    · rw [Keyspace.expiry, h.setScript_reverse hDigest] at hExpires
      obtain ⟨deadline, hLe, hTouch⟩ := h.expiry other expires hExpires
      exact ⟨deadline, hLe, mem_filter.mpr ⟨hTouch, by simpa using hDigest⟩⟩
  listed other tag hOther hMem := by
    by_cases hDigest : stableHash other = stableHash key
    · rw [entry_eq_iff.mpr hDigest] at hMem
      rw [tags_eq_iff.mpr hDigest]
      rcases (members_tag_set hPlain key tags encoded ttlMs indexTtlMs).mp hMem with
        ⟨hOld, hNot⟩ | ⟨⟨own, hOwn, hHash⟩, -⟩
      · exact absurd ⟨h.listed key tag hInTime hOld, rfl⟩ hNot
      · rw [members_setScript _ _ _ _ (hPlain _ fun _ => entry_ne_tags) entry_ne_tags.symm tags_ne_keys]
        exact .inr (.inr ⟨rfl, mem_map.mpr ⟨own, hOwn, redisTagKey_eq_iff.mpr hHash⟩⟩)
    · rw [members_congr (h.setScript_reverse hDigest)]
      rcases (members_tag_set hPlain key tags encoded ttlMs indexTtlMs).mp hMem with ⟨hOld, -⟩ | ⟨-, hEntry⟩
      · refine h.listed other tag (fun touch hTouch hKey => hOther touch (mem_filter.mpr ⟨hTouch, ?_⟩) hKey) hOld
        simpa [hKey] using hDigest
      · exact absurd (entry_eq_iff.mp hEntry) hDigest

end Set

end Index

/-! ## What the keyspace keeps -/

structure Held (state : RedisState Value) : Prop where
  indexed : Indexed cache.stem state.touched state.now state.db
  values : ∀ name text, state.db.string name = some text → ∃ owner ∈ state.last,
    name = (redisCacheKeys cache.stem owner.1).entry ∧ cache.encodeValue owner.2.value = some text
  tagged : ∀ owner ∈ state.last, ∀ tag,
    (redisCacheKeys cache.stem owner.1).entry ∈ state.db.members (redisTagKey cache.stem tag) →
    ∃ own ∈ owner.2.tags, stableHash own = stableHash tag

variable {cache} {state : RedisState Value} {key : Text}

lemma held_initial : Held cache initial where
  indexed := ⟨by rintro _ _ ⟨⟩, by rintro _ _ ⟨⟩, by rintro _ _ ⟨⟩, by rintro _ _ _ ⟨⟩⟩
  values := by rintro _ _ ⟨⟩
  tagged := by rintro _ ⟨⟩

lemma Held.plain (h : Held cache state) {name : Text} (hName : ∀ key, (redisCacheKeys cache.stem key).entry ≠ name) :
    state.db.string name = none := by
  cases hText : state.db.string name with
  | none => rfl
  | some text =>
    obtain ⟨owner, -, hOwner, -⟩ := h.values name text hText
    exact absurd hOwner.symm (hName owner.1)

lemma Held.loses (h : Held cache state) {now : Nat} {db : Keyspace} {touched : List (Text × Nat)}
    (hLoses : Keyspace.Loses state.db db) (hIndexed : Indexed cache.stem touched now db) :
    Held cache { state with now := now, db := db, touched := touched } where
  indexed := hIndexed
  values name text hText := h.values name text (hLoses.strings name text hText)
  tagged owner hOwner tag hMem := h.tagged owner hOwner tag (hLoses.members _ _ hMem)

lemma Held.remove (h : Held cache state) (key : Text) : Held cache (cache.remove key state) := by
  unfold RedisCache.remove
  split
  · have hLoses := removeScript_loses (redisCacheKeys cache.stem key) state.db
    have hHeld := h.loses hLoses (h.indexed.removeScript key)
    refine ⟨hHeld.indexed, fun name text hText => ?_, fun owner hOwner => hHeld.tagged owner (mem_of_mem_filter hOwner)⟩
    obtain ⟨owner, hOwner, rfl, hEncoded⟩ := hHeld.values name text hText
    refine ⟨owner, mem_filter.mpr ⟨hOwner, ?_⟩, rfl, hEncoded⟩
    rw [decide_eq_true_iff]
    rintro hKey
    rw [hKey, string_removeScript] at hText
    cases hText
  · exact h

lemma accepted_eq_some {value : Value} {options : EntryOptions} {encoded : Text}
    (h : cache.accepted key value options = some encoded) :
    cache.validKey key ∧ cache.encodeValue value = some encoded := by
  unfold accepted at h
  split at h
  next hValid =>
    exact ⟨(Bool.and_eq_true_iff.mp hValid).1, h⟩
  · cases h

lemma Held.set (h : Held cache state) (hOwn : OwnDigest state key) (hInTime : InTime state.touched state.now key)
    (value : Value) (options : EntryOptions) : Held cache (cache.set key value options state) := by
  unfold RedisCache.set
  split
  · exact h
  next encoded hAccepted =>
    refine ⟨h.indexed.setScript (fun _ => h.plain) key _ _ _ _ hInTime, fun name text hText => ?_, ?_⟩
    · dsimp only at hText
      rw [string_setScript] at hText
      split at hText
      next hName =>
        cases hText
        exact ⟨_, mem_cons_self, hName, (accepted_eq_some hAccepted).2⟩
      next hName =>
        obtain ⟨owner, hOwner, rfl, hEncoded⟩ := h.values name text ((untag_loses _ _ _).strings _ _ hText)
        refine ⟨owner, mem_cons_of_mem _ (mem_filter.mpr ⟨hOwner, ?_⟩), rfl, hEncoded⟩
        exact decide_eq_true fun hKey => hName (hKey ▸ rfl)
    · intro owner hOwner tag hMem
      rcases mem_cons.mp hOwner with rfl | hOld
      · rcases (members_tag_set (fun _ => h.plain) key _ _ _ _).mp hMem with ⟨hBefore, hNot⟩ | ⟨hTag, -⟩
        · exact absurd ⟨h.indexed.listed key tag hInTime hBefore, rfl⟩ hNot
        · exact hTag
      · obtain ⟨hIn, hKey⟩ := mem_filter.mp hOld
        rcases (members_tag_set (fun _ => h.plain) key _ _ _ _).mp hMem with ⟨hBefore, -⟩ | ⟨-, hEntry⟩
        · exact h.tagged owner hIn tag hBefore
        · exact absurd (hOwn owner hIn (entry_eq_iff.mp hEntry)) (of_decide_eq_true hKey)

lemma Held.step (h : Held cache state) (step : RedisStep Value) (hTells : Tells state step) :
    Held cache (cache.step state step) := by
  cases step with
  | set key value options => exact h.set hTells.1 hTells.2 value options
  | get => exact h
  | touch key slidingExpirationMs => exact h.loses (touchScript_loses _ _ _ _ _) (h.indexed.touchScript key _ _)
  | remove key => exact h.remove key
  | invalidateTag tag => exact h.loses (invalidateScript_loses _ _ _) (h.indexed.invalidateScript tag []).1
  | wait ms => exact h.loses (Keyspace.purge_loses _ _) (h.indexed.purge ms)

lemma held_run {steps : List (RedisStep Value)} (hSteps : Admits Tells cache.step initial steps) :
    Held cache (steps.foldl cache.step initial) :=
  foldl_invariant (fun _ step h hTells => h.step step hTells) held_initial hSteps

/-! ## Each step -/

lemma decodeValue_of_encodeValue {value : Value} {text : Text} (h : cache.encodeValue value = some text) :
    cache.decodeValue text = cache.copy value := by
  obtain ⟨json, hJson, hEncoded⟩ := Option.bind_eq_some_iff.mp h
  split at hEncoded
  · cases hEncoded
  · cases hEncoded
    rw [copy, hJson]
    rfl

lemma get_of_entry_eq_none (h : cache.entry state key = none) : cache.get state key = none := by
  rw [RedisCache.get, h]
  split <;> rfl

lemma Held.set_meets (h : Held cache state) (value : Value) (options : EntryOptions) :
    cache.Meets state (.set key value options) := by
  intro hAccepted
  obtain ⟨encoded, hEncoded⟩ := Option.isSome_iff_exists.mp hAccepted
  obtain ⟨hValid, hValue⟩ := accepted_eq_some hEncoded
  simp only [RedisCache.step, RedisCache.set, hEncoded]
  constructor
  · rw [RedisCache.get, if_pos hValid, entry, string_setScript, if_pos rfl]
    exact decodeValue_of_encodeValue hValue
  · intro tag hTag
    refine get_of_entry_eq_none (string_invalidateScript ?_ _)
    exact (members_tag_set (fun _ => h.plain) key _ _ _ _).mpr (.inr ⟨⟨tag, mem_dedup.mpr hTag, rfl⟩, rfl⟩)

lemma Held.get_meets (h : Held cache state) (hOwn : OwnDigest state key) : cache.Meets state (.get key) := by
  cases hEntry : cache.entry state key with
  | none => exact .inl (get_of_entry_eq_none hEntry)
  | some text =>
    obtain ⟨owner, hOwner, hName, hText⟩ := h.values _ text hEntry
    obtain rfl := hOwn owner hOwner (entry_eq_iff.mp hName.symm)
    by_cases hValid : cache.validKey owner.1
    · refine .inr ⟨owner.2, hOwner, ?_⟩
      rw [RedisCache.get, if_pos hValid, hEntry]
      exact decodeValue_of_encodeValue hText
    · exact .inl (if_neg hValid)

lemma Held.remove_meets (h : Held cache state) (hOwn : OwnDigest state key) : cache.Meets state (.remove key) := by
  change cache.get (cache.remove key state) key = none ∧ ∀ other ∈ state.last, other.1 ≠ key →
    cache.entry (cache.remove key state) other.1 = cache.entry state other.1
  unfold RedisCache.remove
  split
  · refine ⟨get_of_entry_eq_none string_removeScript, fun other hOther hKey => Keyspace.string_congr ?_⟩
    refine removeScript_of_ne (fun hEntry => hKey (hOwn other hOther (entry_eq_iff.mp hEntry))) entry_ne_tags
      entry_ne_keys (h.indexed.not_reverse fun _ => entry_ne_tagKey)
  next hValid =>
    exact ⟨if_neg hValid, fun _ _ _ => rfl⟩

lemma Held.invalidateTag_meets (h : Held cache state) {tag : Text}
    (hTells : Tells state (.invalidateTag tag)) : cache.Meets state (.invalidateTag tag) := by
  intro other hOther hLive hGone
  have hIn : (redisCacheKeys cache.stem other.1).entry ∈ state.db.members (redisTagKey cache.stem tag) := by
    by_contra hOut
    have hSame := Keyspace.string_congr ((h.indexed.invalidateScript tag []).2 other.1 hOut)
    have hNone : cache.entry state other.1 = none := hSame.symm.trans hGone
    rw [hNone] at hLive
    cases hLive
  obtain ⟨own, hOwn, hDigest⟩ := h.tagged other hOther tag hIn
  exact hTells other hOther own hOwn hDigest ▸ hOwn

/-- Over any calls whose keys and tags the digests tell apart, and in which keys are set in time after a sliding
expiration, the cache is a map with tags that may forget. -/
theorem refines_tagged_map (cache : RedisCache Value) (steps : List (RedisStep Value))
    (hSteps : Admits Tells cache.step initial steps) (step : RedisStep Value)
    (hStep : Tells (steps.foldl cache.step initial) step) :
    cache.Meets (steps.foldl cache.step initial) step := by
  have hHeld := held_run hSteps
  cases step with
  | set => exact hHeld.set_meets _ _
  | get => exact hHeld.get_meets hStep
  | touch => trivial
  | remove => exact hHeld.remove_meets hStep
  | invalidateTag => exact hHeld.invalidateTag_meets hStep
  | wait => trivial

/-! ## One cache of digits -/

instance (state : RedisState Value) (key : Text) : Decidable (OwnDigest state key) :=
  inferInstanceAs (Decidable (∀ other ∈ state.last, stableHash other.1 = stableHash key → other.1 = key))

instance (touched : List (Text × Nat)) (now : Nat) (key : Text) : Decidable (InTime touched now key) :=
  inferInstanceAs (Decidable (∀ touch ∈ touched, touch.1 = stableHash key → now < touch.2))

instance (state : RedisState Value) : (step : RedisStep Value) → Decidable (Tells state step)
  | .set key .. => inferInstanceAs (Decidable (OwnDigest state key ∧ InTime state.touched state.now key))
  | .get key | .remove key => inferInstanceAs (Decidable (OwnDigest state key))
  | .invalidateTag tag => inferInstanceAs
    (Decidable (∀ other ∈ state.last, ∀ own ∈ other.2.tags, stableHash own = stableHash tag → own = tag))
  | .touch .. | .wait _ => .isTrue trivial

def digitCache : RedisCache UInt16 where
  stem := asciiText "sloppy:cache:main"
  defaultTtlMs := 60000
  maxValueBytes := 1048576
  maxKeyLength := 512
  maxTagLength := 128
  serializeJson digit := some [digit]
  parseJson
    | [digit] => some digit
    | _ => none

def taggedWith (tags : List Text) : EntryOptions := ⟨none, none, tags⟩

/-- Two keys share a tag. One is removed and set again with another tag, and the shared tag is invalidated. -/
def sharedTag : List (RedisStep UInt16) :=
  [.set (asciiText "a") 49 (taggedWith [asciiText "x"]), .touch (asciiText "a") 1000, .wait 500,
    .set (asciiText "b") 50 (taggedWith [asciiText "x", asciiText "y"]), .remove (asciiText "a"),
    .set (asciiText "a") 51 (taggedWith [asciiText "y"]), .invalidateTag (asciiText "x")]

theorem refines_tagged_map_shared :
    let reached := sharedTag.foldl digitCache.step initial
    digitCache.get reached (asciiText "a") = some 51 ∧ digitCache.get reached (asciiText "b") = none ∧
      digitCache.Meets reached (.get (asciiText "a")) ∧ digitCache.Meets reached (.remove (asciiText "a")) ∧
      digitCache.Meets reached (.invalidateTag (asciiText "y")) := by
  have hSteps : Admits Tells digitCache.step initial sharedTag := by decide +kernel
  exact ⟨by decide +kernel, by decide +kernel, refines_tagged_map _ _ hSteps _ (by decide +kernel),
    refines_tagged_map _ _ hSteps _ (by decide +kernel), refines_tagged_map _ _ hSteps _ (by decide +kernel)⟩

/-- The reverse set of the first key expires before the tag it is in, which the second key keeps alive. -/
def staleTag : List (RedisStep UInt16) :=
  [.set (asciiText "a") 49 (taggedWith [asciiText "x"]), .touch (asciiText "a") 1000, .wait 50000,
    .set (asciiText "b") 50 (taggedWith [asciiText "x"]), .wait 20000,
    .set (asciiText "a") 51 (taggedWith [asciiText "y"])]

/-- A key that was never set is read, since the low byte of U+0161 is that of the letter a; and the tag x takes
an entry that was last set with the tag y only. -/
theorem reads_and_removes_another :
    ¬digitCache.Meets ([.set (asciiText "a") 55 (taggedWith [])].foldl digitCache.step initial) (.get [0x161]) ∧
      ¬digitCache.Meets (staleTag.foldl digitCache.step initial) (.invalidateTag (asciiText "x")) := by
  constructor
  · rintro (hNone | ⟨last, hLast, -⟩)
    · exact absurd hNone (by decide +kernel)
    · cases mem_singleton.mp hLast
  · intro hMeets
    have hTag := hMeets (asciiText "a", ⟨51, [asciiText "y"]⟩) (by decide +kernel) (by decide +kernel)
      (by decide +kernel)
    exact absurd hTag (by decide)

end RedisCache

end Sloppy.Cache
