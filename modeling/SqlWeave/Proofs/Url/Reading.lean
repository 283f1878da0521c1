import Mathlib.Data.Bool.AllAny
import Mathlib.Data.List.TakeWhile
import SqlWeave.Proofs.Text.Padded
import SqlWeave.Proofs.Url.Percent
import SqlWeave.Url.Reader

/-!
# URLs read part by part

A URL of a user, a password, a host, a port, a path of one segment and a query is read into just
these parts (`read_text`), if what it holds are letters, digits and percent signs, except for the
host, which may have all the marks of registered names, and the query.
-/
namespace SqlWeave.Url

/-! ### Cutting texts -/

section Cutting

variable {p : Char → Bool} {front : List Char} {c : Char}

theorem takeWhile_stop (all : ∀ d ∈ front, p d = true) (stop : p c = false) (rest : List Char) :
    (front ++ c :: rest).takeWhile p = front := by
  rw [List.takeWhile_append_of_pos all, List.takeWhile_cons_of_neg (by simp [stop]),
    List.append_nil]

theorem dropWhile_stop (all : ∀ d ∈ front, p d = true) (stop : p c = false) (rest : List Char) :
    (front ++ c :: rest).dropWhile p = c :: rest := by
  rw [List.dropWhile_append_of_pos all, List.dropWhile_cons_of_neg (by simp [stop])]

end Cutting

theorem splitAt_of_notMem {separator : Char} {text : List Char} (absent : separator ∉ text) :
    splitAt separator text = [text] := by
  induction text with
  | nil => rfl
  | cons c text ih =>
    obtain ⟨different, others⟩ := not_or.mp (mt List.mem_cons.mpr absent)
    rw [splitAt, ih others]
    exact if_neg (Ne.symm different)

theorem cutAtLast_of_notMem {text : List Char} (absent : '@' ∉ text) : cutAtLast text = none := by
  induction text with
  | nil => rfl
  | cons c text ih =>
    obtain ⟨different, others⟩ := not_or.mp (mt List.mem_cons.mpr absent)
    rw [cutAtLast, ih others]
    exact if_neg (Ne.symm different)

theorem cutAtLast_append {after : List Char} (absent : '@' ∉ after) (before : List Char) :
    cutAtLast (before ++ '@' :: after) = some (before, after) := by
  induction before with
  | nil =>
    rw [List.nil_append, cutAtLast, cutAtLast_of_notMem absent]
    rfl
  | cons c before ih => rw [List.cons_append, cutAtLast, ih]

/-! ### Dots in a path -/

/-- An encoded dot, whatever the case of its last digit. -/
theorem decode_dot {text : List Char} (plain : ∀ c ∈ text, IsPlain c)
    (lower : text.map Char.toLower = ['%', '2', 'e']) (bytes : List UInt8) :
    decode (text.flatMap String.utf8EncodeChar ++ bytes) = 0x2e :: decode bytes := by
  simp only [List.map_eq_cons_iff, List.map_eq_nil_iff] at lower
  obtain ⟨a, _, rfl, percent, b, _, rfl, two, c, _, rfl, letter, rfl⟩ := lower
  simp only [List.forall_mem_cons] at plain
  obtain ⟨isPercent, isTwo, isLetter, -⟩ := plain
  obtain rfl : a = '%' :=
    of_isPlain (fun c => c.toLower = '%' → c = '%') (by decide) (by decide) isPercent percent
  obtain rfl : b = '2' :=
    of_isPlain (fun c => c.toLower = '2' → c = '2') (by decide) (by decide) isTwo two
  obtain rfl | rfl : c = 'e' ∨ c = 'E' :=
    of_isPlain (fun c => c.toLower = 'e' → c = 'e' ∨ c = 'E') (by decide) (by decide) isLetter
      letter
  · rfl
  · rfl

theorem ne_dot_of_isPlain {c : Char} (plain : IsPlain c) : c.toLower ≠ '.' :=
  of_isPlain (fun c => c.toLower ≠ '.') (by decide) (by decide) plain

theorem eq_of_decodedBytes_encoded {text other : String}
    (decoded : decodedBytes (encoded text) = Text.utf8Bytes other) : text = other := by
  rw [encoded, decodedBytes_encode, String.ofList_toList] at decoded
  have read := Text.ofUtf8?_utf8Bytes text
  rw [decoded, Text.ofUtf8?_utf8Bytes] at read
  exact (Option.some.inj read).symm

theorem isSingleDot_encoded {text : String} (noDot : text ≠ ".") :
    isSingleDot (encoded text) = false := by
  have plain : ∀ c ∈ encoded text, IsPlain c := isPlain_of_mem_encode
  have escape : "%2e".toList = ['%', '2', 'e'] := by decide
  rw [isSingleDot, ← Bool.not_eq_true, List.contains_iff_mem, escape]
  intro member
  simp only [List.mem_cons, List.not_mem_nil, or_false] at member
  rcases member with lower | dot
  · refine noDot (eq_of_decodedBytes_encoded ?_)
    have decoded := decode_dot plain lower []
    rw [List.append_nil] at decoded
    have dot : "." = String.ofList ['.'] := by decide
    rw [decodedBytes, Text.utf8Bytes_ofList, decoded, dot, Text.utf8Bytes_ofList]
    decide
  · obtain ⟨c, _, same, here, -⟩ := List.map_eq_cons_iff.mp dot
    exact ne_dot_of_isPlain (plain c (same ▸ List.mem_cons_self)) here

theorem isDoubleDot_encoded {text : String} (noDots : text ≠ "..") :
    isDoubleDot (encoded text) = false := by
  have plain : ∀ c ∈ encoded text, IsPlain c := isPlain_of_mem_encode
  have noBareDot : '.' ∉ (encoded text).map Char.toLower := by
    intro member
    obtain ⟨c, inside, here⟩ := List.mem_map.mp member
    exact ne_dot_of_isPlain (plain c inside) here
  rw [isDoubleDot, ← Bool.not_eq_true, List.contains_iff_mem]
  intro member
  simp only [List.mem_cons, List.not_mem_nil, or_false] at member
  -- Three of the four spellings have a dot that is not escaped.
  rcases member with bare | bare | bare | lower
  · exact noBareDot (bare ▸ by decide)
  · exact noBareDot (bare ▸ by decide)
  · exact noBareDot (bare ▸ by decide)
  · have escapes : "%2e%2e".toList = ['%', '2', 'e'] ++ ['%', '2', 'e'] := by decide
    rw [escapes] at lower
    obtain ⟨first, second, same, firstLower, secondLower⟩ := List.map_eq_append_iff.mp lower
    refine noDots (eq_of_decodedBytes_encoded ?_)
    rw [same] at plain ⊢
    obtain ⟨firstPlain, secondPlain⟩ := List.forall_mem_append.mp plain
    have decoded := decode_dot secondPlain secondLower []
    rw [List.append_nil] at decoded
    have dots : ".." = String.ofList ['.', '.'] := by decide
    rw [decodedBytes, Text.utf8Bytes_ofList, List.flatMap_append, decode_dot firstPlain firstLower,
      decoded, dots, Text.utf8Bytes_ofList]
    decide

/-! ### Queries of one parameter -/

/-- A parameter with a percent-encoded value. -/
def parameter (name : List Char) (value : String) : List Char := name ++ '=' :: encoded value

section Parameter

variable {name : List Char} (value : String)

theorem of_mem_parameter (holds : Char → Prop)
    (each : ∀ code < 123, (Char.ofNat code).isAlphanum = true → holds (Char.ofNat code))
    (percent : holds '%') (equals : holds '=') (inName : ∀ c ∈ name, holds c) :
    ∀ c ∈ parameter name value, holds c := by
  rw [parameter, List.forall_mem_append, List.forall_mem_cons]
  exact ⟨inName, equals, fun c member =>
    of_isPlain holds each percent (isPlain_of_mem_encode c member)⟩

theorem readPair_parameter (noEquals : '=' ∉ name) :
    readPair (parameter name value) = (decodeForm name, value) := by
  have inName : ∀ c ∈ name, decide (c ≠ '=') = true := fun c member =>
    decide_eq_true (fun equals => noEquals (equals ▸ member))
  have stop : decide ('=' ≠ '=') = false := by decide
  rw [readPair, parameter, takeWhile_stop inName stop, dropWhile_stop inName stop, List.drop_one,
    List.tail_cons, decodeForm_encoded]

theorem queryPairs_parameter (noEquals : '=' ∉ name) (noAmpersand : '&' ∉ name) :
    queryPairs (parameter name value) = [(decodeForm name, value)] := by
  have whole : '&' ∉ parameter name value := fun member =>
    of_mem_parameter value (· ≠ '&') (by decide) (by decide) (by decide)
      (fun c inName equals => noAmpersand (equals ▸ inName)) '&' member rfl
  have nonempty : (parameter name value).isEmpty = false := by simp [parameter]
  simp [queryPairs, splitAt_of_notMem whole, nonempty, readPair_parameter value noEquals]

end Parameter

/-! ### Parts -/

/-- The marks that the name of a host can hold, next to letters and digits. -/
def nameMarks : List Char := "-._~%!$&'()*+,;=".toList

def isNameChar (c : Char) : Bool := c.isAlphanum || nameMarks.contains c

theorem of_isNameChar (holds : Char → Prop) [DecidablePred holds]
    (each : ∀ code < 123, (Char.ofNat code).isAlphanum = true → holds (Char.ofNat code))
    (marks : nameMarks.all (holds ·) = true) {c : Char} (inName : isNameChar c = true) :
    holds c := by
  rcases Bool.or_eq_true_iff.mp inName with isAlphanum | mark
  · exact of_isAlphanum holds each isAlphanum
  · exact List.all_iff_forall_prop.mp marks c (List.contains_iff_mem.mp mark)

/-- The parts of a URL that are read as they are written. -/
structure Parts where
  user : List Char
  password : List Char
  host : List Char
  port : Nat
  path : List Char
  query : List Char
  user_plain : ∀ c ∈ user, IsPlain c
  password_plain : ∀ c ∈ password, IsPlain c
  host_nonempty : host ≠ []
  host_named : ∀ c ∈ host, isNameChar c = true
  port_le : port ≤ 65535
  path_plain : ∀ c ∈ path, IsPlain c
  noDots : isSingleDot path = false ∧ isDoubleDot path = false
  query_visible : ∀ c ∈ query, 0x20 < c.toNat ∧ c ≠ '#'

namespace Parts

/-- User and password. -/
def credentials (parts : Parts) : List Char := parts.user ++ ':' :: parts.password

/-- Host and port. -/
def address (parts : Parts) : List Char := parts.host ++ ':' :: Text.decimal parts.port

/-- What stands behind the two slashes. -/
def location (parts : Parts) : List Char :=
  (parts.credentials ++ '@' :: parts.address) ++ '/' :: (parts.path ++ '?' :: parts.query)

variable (parts : Parts)

/-! #### User and password -/

theorem isPlain_of_mem_credentials : ∀ c ∈ parts.credentials, IsPlain c ∨ c = ':' := by
  intro c member
  rcases List.mem_append.mp member with user | rest
  · exact .inl (parts.user_plain c user)
  · rcases List.mem_cons.mp rest with colon | password
    · exact .inr colon
    · exact .inl (parts.password_plain c password)

theorem isNameChar_of_mem_address : ∀ c ∈ parts.address, isNameChar c = true ∨ c = ':' := by
  intro c member
  rcases List.mem_append.mp member with host | rest
  · exact .inl (parts.host_named c host)
  · rcases List.mem_cons.mp rest with colon | port
    · exact .inr colon
    · have isDigit : c.isDigit = true := (Text.Digits.ofNat parts.port).areDigits c port
      exact .inl (by simp [isNameChar, Char.isAlphanum, isDigit])

/-- What is read of the user and the password. -/
def userinfo : Userinfo :=
  ⟨parts.user, if parts.password.isEmpty then none else some parts.password⟩

theorem ofText_credentials : Userinfo.ofText parts.credentials = parts.userinfo := by
  have noColon : ∀ c ∈ parts.user, decide (c ≠ ':') = true := fun c member =>
    decide_eq_true (of_isPlain (· ≠ ':') (by decide) (by decide) (parts.user_plain c member))
  have kept {text : List Char} (plain : ∀ c ∈ text, IsPlain c) :
      encode keptInUserinfo text = text :=
    encode_of_kept fun c member =>
      of_isPlain (keptInUserinfo · = true) (by decide) (by decide) (plain c member)
  have user : parts.credentials.takeWhile (· ≠ ':') = parts.user :=
    takeWhile_stop noColon (by decide) _
  have password : (parts.credentials.dropWhile (· ≠ ':')).drop 1 = parts.password := by
    rw [credentials, dropWhile_stop noColon (by decide)]
    rfl
  simp only [Userinfo.ofText, user, password, kept parts.user_plain, kept parts.password_plain,
    userinfo]

theorem endsAuthority_of_mem :
    ∀ c ∈ parts.credentials ++ '@' :: parts.address, endsAuthority false c = false := by
  have colon : endsAuthority false ':' = false := by decide
  rw [List.forall_mem_append, List.forall_mem_cons]
  refine ⟨fun c member => ?_, by decide, fun c member => ?_⟩
  · rcases parts.isPlain_of_mem_credentials c member with plain | rfl
    · exact of_isPlain (endsAuthority false · = false) (by decide) (by decide) plain
    · exact colon
  · rcases parts.isNameChar_of_mem_address c member with name | rfl
    · exact of_isNameChar (endsAuthority false · = false) (by decide) (by decide) name
    · exact colon

theorem readUserinfo_location : readUserinfo false parts.location =
    .ok (parts.userinfo, parts.address ++ '/' :: (parts.path ++ '?' :: parts.query)) := by
  have inside : ∀ c ∈ parts.credentials ++ '@' :: parts.address,
      (!endsAuthority false c) = true := by
    intro c member
    rw [parts.endsAuthority_of_mem c member]
    rfl
  have authority : parts.location.takeWhile (fun c => !endsAuthority false c) =
      parts.credentials ++ '@' :: parts.address :=
    takeWhile_stop inside (by decide) _
  have noAt : '@' ∉ parts.address := by
    intro member
    rcases parts.isNameChar_of_mem_address '@' member with name | colon
    · exact absurd name (by decide)
    · exact absurd colon (by decide)
  have rest : parts.location.drop (parts.credentials.length + 1) =
      parts.address ++ '/' :: (parts.path ++ '?' :: parts.query) := by
    rw [location, List.append_assoc, ← List.drop_drop, List.drop_left]
    rfl
  have nonempty : parts.credentials.isEmpty = false := by simp [credentials]
  simp [readUserinfo, authority, cutAtLast_append noAt, rest, nonempty, parts.ofText_credentials]

/-! #### Host and port -/

theorem hostLength_name {host : List Char} (named : ∀ c ∈ host, isNameChar c = true)
    (rest : List Char) : hostLength false false (host ++ ':' :: rest) = host.length := by
  induction host with
  | nil => rfl
  | cons c host ih =>
    obtain ⟨first, others⟩ := List.forall_mem_cons.mp named
    have inside : endsAuthority false c = false ∧ c ≠ ':' ∧ c ≠ '[' ∧ c ≠ ']' :=
      of_isNameChar (fun c => endsAuthority false c = false ∧ c ≠ ':' ∧ c ≠ '[' ∧ c ≠ ']')
        (by decide) (by decide) first
    simp [hostLength, inside, ih others]

theorem readOpaqueHost_host : readOpaqueHost parts.host = .ok parts.host := by
  have allowed : ∀ c ∈ parts.host, isForbiddenInHost c = false ∧ keptInHost c = true ∧ c ≠ '[' :=
    fun c member => of_isNameChar
      (fun c => isForbiddenInHost c = false ∧ keptInHost c = true ∧ c ≠ '[') (by decide) (by decide)
      (parts.host_named c member)
  have noBracket : parts.host.head? ≠ some '[' := fun head =>
    (allowed '[' (List.mem_of_mem_head? head)).2.2 rfl
  have noForbidden : ¬ parts.host.any isForbiddenInHost = true := by
    rw [List.any_eq_true]
    rintro ⟨c, member, forbidden⟩
    rw [(allowed c member).1] at forbidden
    cases forbidden
  rw [readOpaqueHost, if_neg noBracket, if_neg noForbidden,
    encode_of_kept fun c member => (allowed c member).2.1]

theorem readPort_decimal {port : Nat} (small : port ≤ 65535) (rest : List Char) :
    readPort (Text.decimal port ++ '/' :: rest) = .ok (some port, '/' :: rest) := by
  have areDigits : ∀ c ∈ Text.decimal port, c.isDigit = true := (Text.Digits.ofNat port).areDigits
  have nonempty : (Text.decimal port).isEmpty = false := by
    simpa using (Text.Digits.ofNat port).nonempty
  have slash : endsAuthority true '/' = true := by decide
  simp [readPort, takeWhile_stop areDigits (by decide : '/'.isDigit = false),
    dropWhile_stop areDigits (by decide : '/'.isDigit = false), Text.decimalValue_decimal,
    Nat.not_lt.mpr small, nonempty, slash]

/-- What is read of the user, the host and the port. -/
def authority : Authority := ⟨parts.userinfo, some parts.host, some parts.port⟩

theorem readAuthority_location : readAuthority false parts.location =
    .ok (parts.authority, '/' :: (parts.path ++ '?' :: parts.query)) := by
  have length := hostLength_name parts.host_named
    (Text.decimal parts.port ++ '/' :: (parts.path ++ '?' :: parts.query))
  have nonempty : parts.host.isEmpty = false := by simpa using parts.host_nonempty
  have address (rest : List Char) : parts.address ++ '/' :: rest =
      parts.host ++ ':' :: (Text.decimal parts.port ++ '/' :: rest) := by simp [address]
  rw [readAuthority, parts.readUserinfo_location, address]
  simp [length, nonempty, parts.readOpaqueHost_host, readPort_decimal parts.port_le, authority,
    Bind.bind, Except.bind, pure, Except.pure]

/-! #### Path and query -/

theorem pathText_path : pathText ('/' :: parts.path) = '/' :: parts.path := by
  have kept : encode keptInPath parts.path = parts.path :=
    encode_of_kept fun c member =>
      of_isPlain (keptInPath · = true) (by decide) (by decide) (parts.path_plain c member)
  have noSlash : '/' ∉ parts.path := fun member =>
    of_isPlain (· ≠ '/') (by decide) (by decide) (parts.path_plain '/' member) rfl
  simp [pathText, splitAt_of_notMem noSlash, kept, resolveDots, parts.noDots]

/-- What is read of all parts. -/
def located : Location := ⟨parts.authority, '/' :: parts.path, queryPairs parts.query⟩

/-- A character of a path, which neither the query nor the fragment starts with. -/
def inPath (c : Char) : Bool := c ≠ '?' && c ≠ '#'

theorem readLocation_location : readLocation parts.location = .ok parts.located := by
  have inside : ∀ c ∈ '/' :: parts.path, inPath c = true := by
    rw [List.forall_mem_cons]
    exact ⟨by decide, fun c member =>
      of_isPlain (inPath · = true) (by decide) (by decide) (parts.path_plain c member)⟩
  have path : ('/' :: (parts.path ++ '?' :: parts.query)).takeWhile inPath = '/' :: parts.path :=
    takeWhile_stop inside (by decide) parts.query
  have query : ('/' :: (parts.path ++ '?' :: parts.query)).dropWhile inPath = '?' :: parts.query :=
    dropWhile_stop inside (by decide) parts.query
  have whole : parts.query.takeWhile (· ≠ '#') = parts.query := by
    rw [List.takeWhile_eq_self_iff]
    exact fun c member => decide_eq_true (parts.query_visible c member).2
  rw [readLocation, parts.readAuthority_location]
  show Except.ok (Location.mk parts.authority
    (pathText (('/' :: (parts.path ++ '?' :: parts.query)).takeWhile inPath))
    (readQuery (('/' :: (parts.path ++ '?' :: parts.query)).dropWhile inPath))) = _
  rw [path, query, parts.pathText_path, readQuery, whole, located]

/-! #### Whole URLs -/

/-- The text of the parts. -/
def text : List Char := "postgres://".toList ++ parts.location

theorem clean_of_visible {text : List Char} (visible : ∀ c ∈ text, 0x20 < c.toNat) :
    clean text = text := by
  -- A URL is trimmed at both ends, and tabs and line breaks are dropped all over.
  have untrimmed {text : List Char} (visible : ∀ c ∈ text, 0x20 < c.toNat) :
      text.dropWhile (fun c => decide (c ≤ ' ')) = text := by
    cases text with
    | nil => rfl
    | cons c text =>
      have first : ¬ c ≤ ' ' := fun low =>
        Nat.not_lt.mpr (UInt32.le_iff_toNat_le.mp low) (visible c List.mem_cons_self)
      exact List.dropWhile_cons_of_neg (by simp [first])
  have backwards : ∀ c ∈ text.reverse, 0x20 < c.toNat :=
    fun c member => visible c (List.mem_reverse.mp member)
  have kept : ∀ c ∈ text, (decide (c ≠ '\t') && decide (c ≠ '\n') && decide (c ≠ '\r')) = true := by
    intro c member
    have noControl {control : Char} (low : ¬ 0x20 < control.toNat) : c ≠ control := by
      rintro rfl
      exact low (visible c member)
    have tab : c ≠ '\t' := noControl (by decide)
    have feed : c ≠ '\n' := noControl (by decide)
    have ending : c ≠ '\r' := noControl (by decide)
    simp [tab, feed, ending]
  rw [clean]
  simp only [untrimmed visible, untrimmed backwards, List.reverse_reverse]
  exact List.filter_eq_self.mpr kept

theorem scheme_append (rest : List Char) :
    "postgres://".toList ++ rest = "postgres".toList ++ ':' :: '/' :: '/' :: rest := by
  have scheme : "postgres://".toList = "postgres".toList ++ [':', '/', '/'] := by decide
  rw [scheme, List.append_assoc, List.cons_append, List.cons_append, List.cons_append,
    List.nil_append]

theorem text_eq : parts.text = "postgres".toList ++ ':' :: '/' :: '/' :: parts.location :=
  scheme_append parts.location

theorem clean_text : clean parts.text = parts.text := by
  have plain {text : List Char} (plain : ∀ c ∈ text, IsPlain c) : ∀ c ∈ text, 0x20 < c.toNat :=
    fun c member => of_isPlain (0x20 < ·.toNat) (by decide) (by decide) (plain c member)
  have digits : ∀ c ∈ Text.decimal parts.port, 0x20 < c.toNat := fun c member =>
    Text.of_isDigit (0x20 < ·.toNat) (by decide)
      ((Text.Digits.ofNat parts.port).areDigits c member)
  have host : ∀ c ∈ parts.host, 0x20 < c.toNat := fun c member =>
    of_isNameChar (0x20 < ·.toNat) (by decide) (by decide) (parts.host_named c member)
  have scheme : ∀ c ∈ "postgres".toList, 0x20 < c.toNat := List.all_iff_forall_prop.mp (by decide)
  refine clean_of_visible ?_
  simp only [text_eq, location, credentials, address, List.forall_mem_append, List.forall_mem_cons]
  exact ⟨scheme, by decide, by decide, by decide, ⟨⟨plain parts.user_plain, by decide,
    plain parts.password_plain⟩, by decide, host, by decide, digits⟩, by decide,
    plain parts.path_plain, by decide, fun c member => (parts.query_visible c member).1⟩

theorem readScheme?_append {scheme : List Char} (letter : scheme.head?.any Char.isAlpha = true)
    (all : scheme.all inScheme = true) (rest : List Char) :
    readScheme? (scheme ++ ':' :: rest) = some (String.ofList (scheme.map Char.toLower), rest) := by
  have colon : inScheme ':' = false := by decide
  have front : (scheme ++ ':' :: rest).head?.any Char.isAlpha = true := by
    cases scheme with
    | nil => cases letter
    | cons => exact letter
  have inside : ∀ c ∈ scheme, inScheme c = true := List.all_eq_true.mp all
  simp only [readScheme?, if_pos front, dropWhile_stop inside colon, takeWhile_stop inside colon]

theorem readScheme?_text :
    readScheme? parts.text = some ("postgres", '/' :: '/' :: parts.location) := by
  have small : String.ofList ("postgres".toList.map Char.toLower) = "postgres" := by decide
  rw [text_eq, readScheme?_append (by decide) (by decide), small]

/-- A URL of such parts is read into them. -/
theorem read_text : Url.read (String.ofList parts.text) = .ok ⟨"postgres", some parts.located⟩ := by
  have noWeb : webScheme? "postgres" = none := by decide
  rw [Url.read, String.toList_ofList, parts.clean_text, parts.readScheme?_text]
  simp only [noWeb, parts.readLocation_location, Except.map]

end Parts

end SqlWeave.Url
