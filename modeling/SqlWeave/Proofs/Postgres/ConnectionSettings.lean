import SqlWeave.Postgres.ConnectionSettings
import SqlWeave.Proofs.Url.Reading

/-!
# Settings written as URLs

Settings are written as a URL by percent-encoding them. Reading it finds the host, the port and the
application name again; the user, the password and the database only if there was nothing to encode
in them (`ofUrl_url`).
-/
namespace SqlWeave.Postgres

/-- A server, a database and who asks. The database can be a segment of a path. -/
structure Target where
  user : String
  password : String
  host : String
  port : Nat
  database : String
  applicationName : String
  user_nonempty : user ≠ ""
  host_nonempty : host ≠ ""
  host_named : ∀ c ∈ host.toList, Url.isNameChar c = true
  port_le : port ≤ 65535
  database_nonempty : database ≠ ""
  database_noDots : database ≠ "." ∧ database ≠ ".."

namespace Target

variable (target : Target)

/-- The only parameter. -/
def query : List Char := Url.parameter "application_name".toList target.applicationName

/-- The URL of a target, percent-encoded wherever any text can stand. -/
def url : String :=
  String.ofList ("postgres://".toList ++
    ((Url.encoded target.user ++ ':' :: Url.encoded target.password) ++ '@' ::
      (target.host.toList ++ ':' :: Text.decimal target.port) ++ '/' ::
      (Url.encoded target.database ++ '?' :: target.query)))

/-- What the URL consists of. -/
def parts : Url.Parts where
  user := Url.encoded target.user
  password := Url.encoded target.password
  host := target.host.toList
  port := target.port
  path := Url.encoded target.database
  query := target.query
  user_plain := Url.isPlain_of_mem_encode
  password_plain := Url.isPlain_of_mem_encode
  host_nonempty := fun empty => target.host_nonempty (String.toList_eq_nil_iff.mp empty)
  host_named := target.host_named
  port_le := target.port_le
  path_plain := Url.isPlain_of_mem_encode
  noDots := ⟨Url.isSingleDot_encoded target.database_noDots.1,
    Url.isDoubleDot_encoded target.database_noDots.2⟩
  query_visible :=
    Url.of_mem_parameter target.applicationName (fun c => 0x20 < c.toNat ∧ c ≠ '#') (by decide)
      (by decide) (by decide) (List.all_iff_forall_prop.mp (by decide))

theorem url_eq : target.url = String.ofList target.parts.text := rfl

theorem queryPairs_query :
    Url.queryPairs target.query = [("application_name", target.applicationName)] := by
  have name : Url.decodeForm "application_name".toList = "application_name" := by
    rw [Url.decodeForm_ascii (List.all_iff_forall_prop.mp (by decide)), String.ofList_toList]
  rw [query, Url.queryPairs_parameter _ (by decide) (by decide), name]

end Target

namespace ConnectionSettings

theorem isEmpty_encoded (text : String) : (Url.encoded text).isEmpty = decide (text = "") := by
  rw [Url.encoded, Url.isEmpty_encode, Bool.eq_iff_iff, decide_eq_true_iff, List.isEmpty_iff,
    String.toList_eq_nil_iff]

theorem dropWhile_encoded (text : String) :
    ('/' :: Url.encoded text).dropWhile (· = '/') = Url.encoded text := by
  rw [List.dropWhile_cons_of_pos (by decide), List.dropWhile_eq_self_iff]
  intro long slash
  have plain : Url.IsPlain (Url.encoded text)[0] :=
    Url.isPlain_of_mem_encode _ (List.getElem_mem long)
  exact Url.of_isPlain (· ≠ '/') (by decide) (by decide) plain (of_decide_eq_true slash)

/-- What a URL says in front of its query. -/
def ofLocation (host : List Char) (location : Url.Location) : ConnectionSettings :=
  { onThisMachine (String.ofList (location.path.dropWhile (· = '/'))) with
    host := String.ofList host
    port := location.authority.port.getD 5432
    user := userOf location.authority.userinfo.username
    password := location.authority.userinfo.password.map String.ofList }

/-- Once a URL that names a host and a database is read, its parameters are applied. -/
theorem ofUrl_of_read {text : String} {location : Url.Location} {host : List Char}
    (read : Url.read text = .ok ⟨"postgres", some location⟩)
    (hostNamed : location.authority.host = some host)
    (databaseNamed : (location.path.dropWhile (· = '/')).isEmpty = false) :
    ofUrl text = location.query.foldlM applyParameter (ofLocation host location) := by
  rw [ofUrl, read]
  simp only [Except.mapError, bind, Except.bind, hostNamed, databaseNamed]
  rfl

theorem applyParameter_applicationName (settings : ConnectionSettings) (value : String) :
    applyParameter settings ("application_name", value) =
      .ok { settings with applicationName := some value } := by
  simp [applyParameter]

/-- The settings of a target, but with all except the host and the application name encoded. -/
def ofTarget (target : Target) : ConnectionSettings :=
  { onThisMachine (String.ofList (Url.encoded target.database)) with
    host := target.host
    port := target.port
    user := String.ofList (Url.encoded target.user)
    password :=
      if target.password = "" then none else some (String.ofList (Url.encoded target.password))
    applicationName := some target.applicationName }

theorem ofLocation_located (target : Target) :
    ofLocation target.parts.host target.parts.located =
      { ofTarget target with applicationName := none } := by
  have host : String.ofList target.parts.host = target.host := String.ofList_toList
  have database : target.parts.located.path.dropWhile (· = '/') = Url.encoded target.database :=
    dropWhile_encoded target.database
  have user : userOf target.parts.userinfo.username = (ofTarget target).user := by
    have nonempty : (Url.encoded target.user).isEmpty = false := by
      simp [isEmpty_encoded, target.user_nonempty]
    show userOf (Url.encoded target.user) = String.ofList (Url.encoded target.user)
    rw [userOf, nonempty]
    rfl
  have password :
      target.parts.userinfo.password.map String.ofList = (ofTarget target).password := by
    simp only [Url.Parts.userinfo, Target.parts, isEmpty_encoded, decide_eq_true_eq, ofTarget]
    split <;> rfl
  rw [ofLocation, database]
  simp only [Url.Parts.located, Url.Parts.authority, host, user, password]
  rfl

/-- All of a target is in its URL; user, password and database are not decoded again. -/
theorem ofUrl_url_eq (target : Target) : ofUrl target.url = .ok (ofTarget target) := by
  have databaseNamed : (target.parts.located.path.dropWhile (· = '/')).isEmpty = false := by
    have dropped := dropWhile_encoded target.database
    simp [Url.Parts.located, Target.parts, dropped, isEmpty_encoded, target.database_nonempty]
  have query : target.parts.located.query = [("application_name", target.applicationName)] :=
    target.queryPairs_query
  rw [target.url_eq, ofUrl_of_read target.parts.read_text rfl databaseNamed, query,
    ofLocation_located, List.foldlM_cons, applyParameter_applicationName]
  rfl

theorem ofList_encoded_eq_iff (text : String) :
    String.ofList (Url.encoded text) = text ↔ ∀ c ∈ text.toList, c.isAlphanum = true := by
  rw [← Url.encode_eq_self_iff, ← Url.encoded, ← String.toList_inj, String.toList_ofList]

/-- Reading the URL of a target succeeds and finds its host, port and application name. User,
password and database are found as they stand in the URL: as they were only if they consist of
letters and digits. -/
theorem ofUrl_url (target : Target) :
    ∃ settings, ofUrl target.url = .ok settings ∧
      settings.host = target.host ∧
      settings.port = target.port ∧
      settings.applicationName = some target.applicationName ∧
      (settings.user = target.user ↔ ∀ c ∈ target.user.toList, c.isAlphanum = true) ∧
      (settings.password.getD "" = target.password ↔
        ∀ c ∈ target.password.toList, c.isAlphanum = true) ∧
      (settings.database = target.database ↔
        ∀ c ∈ target.database.toList, c.isAlphanum = true) := by
  refine ⟨ofTarget target, ofUrl_url_eq target, rfl, rfl, rfl,
    ofList_encoded_eq_iff target.user, ?_, ofList_encoded_eq_iff target.database⟩
  rw [← ofList_encoded_eq_iff target.password]
  by_cases empty : target.password = ""
  · simp [ofTarget, empty, Url.encoded, Url.encode]
  · simp [ofTarget, empty]

/-- Letters and digits are found again, and so is any application name. -/
theorem ofUrl_url_plain :
    ∃ target : Target, target.user = "app" ∧ target.password = "" ∧ target.database = "shop" ∧
      target.applicationName = "a b&c" ∧
      ∃ settings, ofUrl target.url = .ok settings ∧ settings.user = "app" ∧
        settings.password.getD "" = "" ∧ settings.database = "shop" ∧
        settings.applicationName = some "a b&c" := by
  let target : Target := ⟨"app", "", "db", 5432, "shop", "a b&c", by decide, by decide,
    List.all_eq_true.mp (by decide), by decide, by decide, by decide⟩
  obtain ⟨settings, read, -, -, name, user, password, database⟩ := ofUrl_url target
  exact ⟨target, rfl, rfl, rfl, rfl, settings, read, user.mpr (List.all_eq_true.mp (by decide)),
    password.mpr (List.all_eq_true.mp (by decide)), database.mpr (List.all_eq_true.mp (by decide)),
    name⟩

/-- The at sign of a password is read as the three characters that encode it. -/
theorem ofUrl_url_at_sign :
    ∃ target : Target, target.password = "p@ss" ∧
      target.url = "postgres://app:p%40ss@db:5432/shop?application_name=api" ∧
      ∃ settings, ofUrl target.url = .ok settings ∧ settings.password = some "p%40ss" := by
  refine ⟨⟨"app", "p@ss", "db", 5432, "shop", "api", by decide, by decide,
    List.all_eq_true.mp (by decide), by decide, by decide, by decide⟩, rfl, ?_, _,
    ofUrl_url_eq _, ?_⟩
  · decide +kernel
  · decide +kernel

end ConnectionSettings

end SqlWeave.Postgres
