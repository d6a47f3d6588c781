import Gestalt.Library.Delimited

/-!
# Gestalt.Library.Url

Web addresses, their texts, and what a prefix of the text tells about the
address.

An address names a scheme, a host and a port, and then a path.  An origin is a
scheme and a host, perhaps with a port and a path below which everything is
meant.  Its text begins the text of every address it covers when that has the
same spelling, and the text of others: where the host or the port goes on, where
the path goes on inside a segment, and where the origin is spelled out in the
userinfo of another host.
-/

namespace Url

open Delimited

/-! ## authorities -/

/-- The characters at which an authority, or the userinfo before it, ends. -/
def EndsAuthority (c : Char) : Prop := c ∈ ['/', '?', '#', '@']

instance : DecidablePred EndsAuthority := fun c =>
  inferInstanceAs (Decidable (c ∈ ['/', '?', '#', '@']))

/-- The host of an address: a name, or a bracketed address in which colons may
stand. -/
structure Host where
  text : List Char
  plain : Plain EndsAuthority text
  colons : ':' ∉ text ∨ text.getLast? = some ']'

/-- The digits of a port, after a colon; nothing when no port is named. -/
def portText : Option Nat → List Char
  | none => []
  | some port => ':' :: Nat.toDigits 10 port

/-- The host, and the port that is named. -/
def authority (host : Host) (port : Option Nat) : List Char := host.text ++ portText port

theorem isDigit_of_mem_toDigits {port : Nat} {c : Char} (h : c ∈ Nat.toDigits 10 port) :
    c.isDigit = true :=
  Nat.isDigit_of_mem_toDigits (by decide) (by decide) h

theorem plain_portText (port : Option Nat) : Plain EndsAuthority (portText port) := by
  cases port with
  | none => exact plain_nil
  | some port =>
      intro c hc hends
      rcases List.mem_cons.mp hc with rfl | hc
      · exact absurd hends (by decide)
      · have hdigit := isDigit_of_mem_toDigits hc
        simp only [EndsAuthority, List.mem_cons, List.not_mem_nil, or_false] at hends
        rcases hends with rfl | rfl | rfl | rfl <;> exact absurd hdigit (by decide)

theorem plain_authority (host : Host) (port : Option Nat) :
    Plain EndsAuthority (authority host port) :=
  host.plain.append (plain_portText port)

/-- A host is not a host and a port. -/
theorem Host.text_ne_append_portText (host host' : Host) (port : Nat) :
    host.text ≠ host'.text ++ portText (some port) := by
  intro heq
  rcases host.colons with hcolon | hlast
  · exact hcolon (by simp [heq, portText])
  · rw [heq, portText, List.getLast?_append_of_ne_nil _ (List.cons_ne_nil _ _),
      List.getLast?_cons_of_ne_nil Nat.toDigits_ne_nil] at hlast
    exact absurd (isDigit_of_mem_toDigits (List.mem_of_getLast? hlast)) (by decide)

/-- Digits after the last colon can be told. -/
theorem digits_eq_of_append_eq {text text' : List Char} {port port' : Nat}
    (h : text ++ portText (some port) = text' ++ portText (some port')) :
    Nat.toDigits 10 port = Nat.toDigits 10 port' := by
  have hplain : ∀ n, Plain (· = ':') (Nat.toDigits 10 n).reverse := by
    rintro n c hc rfl
    exact absurd (isDigit_of_mem_toDigits (List.mem_reverse.mp hc)) (by decide)
  have hreverse := congrArg List.reverse h
  simp only [portText, List.reverse_append, List.reverse_cons, List.append_assoc,
    List.singleton_append] at hreverse
  have hbegins : (Nat.toDigits 10 port).reverse ++ ':' :: text.reverse <+:
      (Nat.toDigits 10 port').reverse ++ ':' :: text'.reverse := ⟨[], by simpa using hreverse⟩
  rw [append_prefix_append_iff (hplain port) (hplain port') (opens_cons.mpr rfl)
    (opens_cons.mpr rfl)] at hbegins
  exact List.reverse_injective (hbegins.resolve_right (by simp)).1

/-- The spelling of an authority tells the host and the port. -/
theorem authority_inj {host host' : Host} {port port' : Option Nat}
    (h : authority host port = authority host' port') :
    host.text = host'.text ∧ port = port' := by
  unfold authority at h
  cases port with
  | none =>
      cases port' with
      | none => simpa [portText] using h
      | some port' =>
          rw [portText, List.append_nil] at h
          exact absurd h (host.text_ne_append_portText host' port')
  | some port =>
      cases port' with
      | none =>
          simp only [portText, List.append_nil] at h
          exact absurd h.symm (host'.text_ne_append_portText host port)
      | some port' =>
          have hdigits : Nat.toDigits 10 port = Nat.toDigits 10 port' :=
            digits_eq_of_append_eq h
          have hport := congrArg (fun digits => Nat.ofDigitChars 10 digits 0) hdigits
          simp only [Nat.ofDigitChars_ten_toDigits] at hport
          rw [portText, portText, hdigits] at h
          exact ⟨List.append_cancel_right h, congrArg some hport⟩

/-! ## addresses and origins -/

/-- A scheme of the web. -/
inductive Scheme where
  | http
  | https
  deriving DecidableEq, Repr

def Scheme.text : Scheme → List Char
  | http => "http".toList
  | https => "https".toList

/-- The port that is meant when none is named. -/
def Scheme.defaultPort : Scheme → Nat
  | http => 80
  | https => 443

/-- The characters at which a path ends. -/
def EndsPath (c : Char) : Prop := c ∈ ['?', '#']

instance : DecidablePred EndsPath := fun c =>
  inferInstanceAs (Decidable (c ∈ ['?', '#']))

/-- A web address, normalized: the host is in lower case, a default port is not
named, and the path begins with a slash. -/
structure Address where
  scheme : Scheme
  userinfo : Option (List Char) := none
  host : Host
  port : Option Nat := none
  path : List Char := ['/']
  query : Option (List Char) := none
  fragment : Option (List Char) := none
  userinfo_plain : ∀ text ∈ userinfo, Plain EndsAuthority text
  host_lower : host.text.map Char.toLower = host.text
  port_named : port ≠ some scheme.defaultPort
  path_slash : path.head? = some '/'
  path_plain : Plain EndsPath path

/-- What follows the path. -/
def Address.tail (a : Address) : List Char :=
  (a.query.elim [] fun text => '?' :: text) ++ (a.fragment.elim [] fun text => '#' :: text)

/-- `scheme://[userinfo@]host[:port]/path[?query][#fragment]`. -/
def Address.text (a : Address) : List Char :=
  a.scheme.text ++ ("://".toList ++ ((a.userinfo.elim [] fun text => text ++ ['@']) ++
    (authority a.host a.port ++ (a.path ++ a.tail))))

/-- An origin: a scheme and a host, perhaps with a port and a path. -/
structure Origin where
  scheme : List Char
  host : Host
  port : Option Nat := none
  path : List Char := []
  scheme_plain : ':' ∉ scheme
  path_slash : ∀ c ∈ path.head?, c = '/'
  path_plain : Plain EndsPath path

/-- `scheme://host[:port][/path]`. -/
def Origin.text (o : Origin) : List Char :=
  o.scheme ++ ("://".toList ++ (authority o.host o.port ++ o.path))

/-- The first path begins the second one and ends where a segment does. -/
def BeginsAtSegment (path path' : List Char) : Prop :=
  ∃ rest, path' = path ++ rest ∧
    (path = [] ∨ rest = [] ∨ path.getLast? = some '/' ∨ rest.head? = some '/')

/-- The origin covers the address: the same scheme, host and port, and a path
below the one of the origin. -/
structure Origin.Covers (o : Origin) (a : Address) : Prop where
  scheme : o.scheme = a.scheme.text
  host : o.host.text.map Char.toLower = a.host.text
  port : o.port.getD a.scheme.defaultPort = a.port.getD a.scheme.defaultPort
  path : BeginsAtSegment o.path a.path

/-- How the text of an origin can begin the text of an address that it need not
cover. -/
inductive Origin.Misleads (o : Origin) (a : Address) : Prop where
  | authority (scheme : o.scheme = a.scheme.text) (userinfo : a.userinfo = none)
      (path : o.path = []) (goesOn : Url.authority o.host o.port <+: Url.authority a.host a.port)
      (further : Url.authority o.host o.port ≠ Url.authority a.host a.port)
  | segment (scheme : o.scheme = a.scheme.text) (userinfo : a.userinfo = none)
      (authority : Url.authority o.host o.port = Url.authority a.host a.port)
      (goesOn : o.path <+: a.path) (inside : ¬ BeginsAtSegment o.path a.path)
  | userinfo (text : List Char) (scheme : o.scheme = a.scheme.text)
      (userinfo : a.userinfo = some text) (path : o.path = [])
      (spelled : Url.authority o.host o.port <+: text)

/-! ## comparing texts -/

section Compare

variable {o : Origin} {a : Address}

/-- Schemes are compared before what follows them. -/
theorem text_prefix_iff_of_scheme {scheme scheme' rest rest' : List Char} (h : ':' ∉ scheme)
    (h' : ':' ∉ scheme') :
    scheme ++ ("://".toList ++ rest) <+: scheme' ++ ("://".toList ++ rest') ↔
      scheme = scheme' ∧ rest <+: rest' := by
  have hplain : ∀ {text : List Char}, ':' ∉ text → Plain (· = ':') text := by
    rintro text htext c hc rfl
    exact htext hc
  have hopens : ∀ text, Opens (· = ':') ("://".toList ++ text) := by simp [Opens]
  rw [append_prefix_append_iff (hplain h) (hplain h') (hopens rest) (hopens rest'),
    List.prefix_append_right_inj]
  simp

theorem Scheme.colon_not_mem_text (scheme : Scheme) : ':' ∉ scheme.text := by
  cases scheme <;> decide

/-- Paths are compared up to the query and the fragment. -/
theorem path_prefix_iff : o.path <+: a.path ++ a.tail ↔ o.path <+: a.path := by
  have htail : Opens EndsPath a.tail := by
    unfold Address.tail
    cases a.query <;> cases a.fragment <;> simp [Opens, EndsPath]
  have hcompare := append_prefix_append_iff o.path_plain a.path_plain opens_nil htail
  rw [List.append_nil] at hcompare
  rw [hcompare]
  constructor
  · rintro (⟨heq, -⟩ | ⟨-, h⟩)
    · rw [heq]
    · exact h
  · exact fun h => Or.inr ⟨rfl, h⟩

theorem Origin.opens_path (o : Origin) : Opens EndsAuthority o.path := by
  intro c hc
  rw [o.path_slash c hc]
  decide

theorem Address.opens_path (a : Address) : Opens EndsAuthority (a.path ++ a.tail) := by
  intro c hc
  rw [List.head?_append, a.path_slash] at hc
  obtain rfl : '/' = c := by simpa using hc
  decide

/-- Without userinfo the authorities are compared before the paths. -/
theorem authority_prefix_iff :
    authority o.host o.port ++ o.path <+: authority a.host a.port ++ (a.path ++ a.tail) ↔
      (authority o.host o.port = authority a.host a.port ∧ o.path <+: a.path) ∨
        (o.path = [] ∧ authority o.host o.port <+: authority a.host a.port) := by
  rw [append_prefix_append_iff (plain_authority _ _) (plain_authority _ _) o.opens_path
    a.opens_path, path_prefix_iff]

/-- With userinfo only an origin without a path can begin the address: before
the userinfo ends. -/
theorem userinfo_prefix_iff {text rest : List Char} (htext : Plain EndsAuthority text) :
    authority o.host o.port ++ o.path <+: text ++ '@' :: rest ↔
      o.path = [] ∧ authority o.host o.port <+: text := by
  rw [append_prefix_append_iff (plain_authority _ _) htext o.opens_path
    (opens_cons.mpr (by decide))]
  constructor
  · rintro (⟨heq, hpath⟩ | h)
    · cases hp : o.path with
      | nil => exact ⟨rfl, heq ▸ List.prefix_refl _⟩
      | cons c path =>
          have hslash : c = '/' := o.path_slash c (by simp [hp])
          rw [hp, hslash, List.cons_prefix_cons] at hpath
          exact absurd hpath.1 (by decide)
    · exact h
  · exact Or.inr

/-- **What a prefix of the text tells.**  The text of an origin begins the text
of an address when the origin covers the address, spelled alike, or misleads. -/
theorem text_prefix_iff :
    o.text <+: a.text ↔
      (o.scheme = a.scheme.text ∧ a.userinfo = none ∧
        authority o.host o.port = authority a.host a.port ∧ BeginsAtSegment o.path a.path) ∨
      o.Misleads a := by
  unfold Origin.text Address.text
  rw [text_prefix_iff_of_scheme o.scheme_plain (Scheme.colon_not_mem_text _)]
  constructor
  · rintro ⟨hscheme, h⟩
    cases huserinfo : a.userinfo with
    | none =>
        rw [huserinfo, Option.elim_none, List.nil_append, authority_prefix_iff] at h
        by_cases hsame : authority o.host o.port = authority a.host a.port
        · have hpath : o.path <+: a.path := by
            rcases h with h | h
            · exact h.2
            · rw [h.1]
              exact List.nil_prefix
          by_cases hsegment : BeginsAtSegment o.path a.path
          · exact Or.inl ⟨hscheme, rfl, hsame, hsegment⟩
          · exact Or.inr (.segment hscheme huserinfo hsame hpath hsegment)
        · obtain ⟨hpath, hgoesOn⟩ := h.resolve_left fun h => hsame h.1
          exact Or.inr (.authority hscheme huserinfo hpath hgoesOn hsame)
    | some text =>
        rw [huserinfo, Option.elim_some, List.append_assoc, List.singleton_append,
          userinfo_prefix_iff (a.userinfo_plain text huserinfo)] at h
        exact Or.inr (.userinfo text hscheme huserinfo h.1 h.2)
  · rintro (⟨hscheme, huserinfo, hsame, rest, hrest, -⟩ | hmisleads)
    · refine ⟨hscheme, ?_⟩
      rw [huserinfo, Option.elim_none, List.nil_append, authority_prefix_iff]
      exact Or.inl ⟨hsame, rest, hrest.symm⟩
    · cases hmisleads with
      | authority scheme userinfo path goesOn further =>
          refine ⟨scheme, ?_⟩
          rw [userinfo, Option.elim_none, List.nil_append, authority_prefix_iff]
          exact Or.inr ⟨path, goesOn⟩
      | segment scheme userinfo authority goesOn inside =>
          refine ⟨scheme, ?_⟩
          rw [userinfo, Option.elim_none, List.nil_append, authority_prefix_iff]
          exact Or.inl ⟨authority, goesOn⟩
      | userinfo text scheme userinfo path spelled =>
          refine ⟨scheme, ?_⟩
          rw [userinfo, Option.elim_some, List.append_assoc, List.singleton_append,
            userinfo_prefix_iff (a.userinfo_plain text userinfo)]
          exact ⟨path, spelled⟩

/-- An origin that is spelled like the beginning of an address covers it. -/
theorem covers_of_authority_eq (hscheme : o.scheme = a.scheme.text)
    (h : authority o.host o.port = authority a.host a.port)
    (hpath : BeginsAtSegment o.path a.path) : o.Covers a := by
  obtain ⟨hhost, hport⟩ := authority_inj h
  exact ⟨hscheme, by rw [hhost, a.host_lower], by rw [hport], hpath⟩

end Compare

end Url
