import ToolRelay.Proofs.SearchAddress

/-!
# Ports at the end of an address

A colon and digits at the end of an address of the web are its port only where they end its
authority. Behind a slash they end a segment of the path, and in brackets that are not closed they
would be part of the host, which no host of the web can have. So the port of an address that was
read is settled by the slashes in front of it (`AddressesAtRoot`).
-/

set_option autoImplicit false

namespace ToolRelay

/-! ## The ends of texts -/

/-- What is dropped at the front ends at the first element that fails the test. -/
theorem dropWhile_append_cons {α : Type} {test : α → Bool} {a : α} (h : test a = false)
    (l r : List α) : (l ++ a :: r).dropWhile test = l.dropWhile test ++ a :: r := by
  induction l with
  | nil => simp [h]
  | cons b l ih => by_cases hb : test b = true <;> simp [hb, ih]

/-- What is left without the longest front that passes a test is the rest behind it. -/
theorem drop_length_takeWhile {α : Type} (test : α → Bool) (l : List α) :
    l.drop (l.takeWhile test).length = l.dropWhile test := by
  induction l with
  | nil => rfl
  | cons a l ih => by_cases ha : test a = true <;> simp [ha, ih]

/-- What stands at the end without a separator belongs to the last piece. -/
theorem Text.exists_getLast?_pieces {sep : Char} {r : List Char} (h : sep ∉ r) (l : List Char) :
    ∃ front, (pieces sep (l ++ r)).getLast? = some (front ++ r) := by
  induction l with
  | nil => exact ⟨[], by rw [List.nil_append, pieces_of_not_mem h]; rfl⟩
  | cons c l ih =>
    obtain ⟨front, hlast⟩ := ih
    rw [List.cons_append, pieces]
    cases hpieces : pieces sep (l ++ r) with
    | nil => exact absurd hpieces (pieces_ne_nil sep _)
    | cons p ps =>
      rw [hpieces] at hlast
      split
      · exact ⟨front, by rwa [List.getLast?_cons_cons]⟩
      · cases ps with
        | nil =>
          -- the only piece grows at its front
          cases hlast
          exact ⟨c :: front, rfl⟩
        | cons q qs => exact ⟨front, by simpa using hlast⟩

namespace Url

/-- A character of ASCII that is no part of an octet in hexadecimal is one of the octets. -/
theorem mem_octets {c : Char} (hascii : c.toNat < 0x80) (hpercent : c ≠ '%')
    (hhex : hexValue? c = none) {l : List Char} (h : c ∈ l) : c.toNat.toUInt8 ∈ octets l := by
  have hself : c.toNat.toUInt8 ∈ Text.Utf8.encodeChar c := by
    simp [Text.Utf8.encodeChar, hascii]
  fun_induction octets l with
  | case1 => cases h
  | case2 d =>
    obtain rfl := List.mem_singleton.1 h
    exact hself
  | case3 d e =>
    simp only [List.mem_cons, List.not_mem_nil, or_false] at h
    rcases h with rfl | rfl
    · exact List.mem_append_left _ hself
    · exact List.mem_append_right _ hself
  | case4 d e r high low hlow hhigh ih =>
    -- the three characters of an octet are none of those that are asked for
    have hd : c ≠ d := by
      rintro rfl
      rw [hhex] at hhigh
      cases hhigh
    have he : c ≠ e := by
      rintro rfl
      rw [hhex] at hlow
      cases hlow
    simp only [List.mem_cons, hpercent, hd, he, false_or] at h
    exact List.mem_cons_of_mem _ (ih h)
  | case5 d e r hoctet ih =>
    exact List.mem_append_right _ (ih ((List.mem_cons.1 h).resolve_left hpercent))
  | case6 d e f r hd ih =>
    rcases List.mem_cons.1 h with rfl | h
    · exact List.mem_append_left _ hself
    · exact List.mem_append_right _ (ih h)

/-- No host of the web holds a colon, unless it ends with a bracket. -/
theorem Host.ofText_ne_ok {names : ToAscii} {l : List Char} (hcolon : ':' ∈ l)
    (hlast : l.getLast? ≠ some ']') (host : Host) : Host.ofText names l ≠ .ok host := by
  intro h
  unfold ofText at h
  split at h
  · rw [bracketed, if_neg hlast] at h
    cases h
  · have hoctet : (0x3A : UInt8) ∈ octets l :=
      mem_octets (c := ':') (by decide) (by decide) rfl hcolon
    have hforbidden : (octets l).any isForbiddenOctet = true := by
      rw [List.any_eq_true]
      exact ⟨0x3A, hoctet, by decide⟩
    rw [if_pos hforbidden] at h
    cases h

/-! ## The host and the port -/

/-- Without a colon all is the host. -/
theorem cutHost_of_not_mem {l : List Char} (h : ':' ∉ l) (inside : Bool) :
    cutHost inside l = (l, []) := by
  induction l generalizing inside with
  | nil => rfl
  | cons c l ih =>
    rw [List.mem_cons, not_or] at h
    have hc : ¬(c = ':' ∧ (!inside) = true) := fun hcolon => h.1 hcolon.1.symm
    rw [cutHost, if_neg hc, ih h.2]

/-- A host is cut at the last colon, at an earlier one, or not at all. -/
theorem cutHost_cases {p : List Char} (hp : ':' ∉ p) (inside : Bool) (x : List Char) :
    cutHost inside (x ++ ':' :: p) = (x, ':' :: p) ∨
      cutHost inside (x ++ ':' :: p) = (x ++ ':' :: p, []) ∨
      ∃ before behind, x = before ++ ':' :: behind ∧
        cutHost inside (x ++ ':' :: p) = (before, ':' :: (behind ++ ':' :: p)) := by
  induction x generalizing inside with
  | nil =>
    cases inside with
    | false => exact .inl rfl
    | true =>
      right; left
      rw [List.nil_append, cutHost, if_neg (by simp), cutHost_of_not_mem hp]
  | cons c x ih =>
    rw [List.cons_append, cutHost]
    split
    · next hcolon =>
      obtain ⟨rfl, -⟩ := hcolon
      exact .inr (.inr ⟨[], x, rfl, rfl⟩)
    · -- what follows is cut in one of the three ways
      rcases ih (if c = '[' then true else if c = ']' then false else inside) with
        hcut | hcut | ⟨before, behind, rfl, hcut⟩
      · left
        rw [hcut]
      · right; left
        rw [hcut]
      · right; right
        exact ⟨c :: before, behind, rfl, by rw [hcut]⟩

/-- What stands at the end without the mark stays behind the last mark. -/
theorem exists_cutLast_append {mark : Char} {r : List Char} (h : mark ∉ r) (l : List Char) :
    ∃ front, front <:+ l ∧ (Text.cutLast mark (l ++ r)).2 = front ++ r := by
  have hreverse : mark ∉ r.reverse := by rwa [List.mem_reverse]
  by_cases hmark : mark ∈ l.reverse
  · obtain ⟨behind, before, hl, hbehind⟩ := List.eq_append_cons_of_mem hmark
    have hcut : Text.cut mark (l ++ r).reverse = (r.reverse ++ behind, some before) := by
      rw [List.reverse_append, hl, ← List.append_assoc]
      apply Text.cut_append
      simp [hreverse, hbehind]
    refine ⟨behind.reverse, ⟨before.reverse ++ [mark], ?_⟩, ?_⟩
    · rw [← List.reverse_reverse l, hl]
      simp
    · rw [Text.cutLast, hcut]
      simp
  · have hcut : Text.cut mark (l ++ r).reverse = ((l ++ r).reverse, none) := by
      apply Text.cut_of_not_mem
      rw [List.reverse_append, List.mem_append, not_or]
      exact ⟨hreverse, hmark⟩
    exact ⟨l, List.suffix_rfl, by rw [Text.cutLast, hcut]⟩

/-- Digits behind a colon are the port and nothing else. -/
theorem of_cutPort {scheme digits rest : List Char} {port : Option Nat} (hne : digits ≠ [])
    (hdigits : ∀ c ∈ digits, Decimal.isDigit c = true)
    (h : cutPort scheme (':' :: digits) = .ok (port, rest)) :
    rest = [] ∧ port.or (impliedPort? scheme) = some (Decimal.valueFrom 0 digits) := by
  have hall : digits.takeWhile Decimal.isDigit = digits := List.takeWhile_eq_self_iff.2 hdigits
  simp only [cutPort, hall, List.drop_length, portOf, List.isEmpty_iff, hne, if_false] at h
  split at h
  · cases h
  · split at h
    · next himplied =>
      cases h
      exact ⟨rfl, himplied⟩
    · cases h
      exact ⟨rfl, rfl⟩

/-- Behind a host nothing but digits may stand between its colon and another. -/
theorem cutPort_ne_ok {scheme behind digits : List Char} (hslash : '\\' ∉ behind)
    (found : Option Nat × List Char) :
    cutPort scheme (':' :: (behind ++ ':' :: digits)) ≠ .ok found := by
  intro h
  rw [cutPort, drop_length_takeWhile, dropWhile_append_cons (by decide)] at h
  cases hrest : behind.dropWhile Decimal.isDigit with
  | nil => simp [hrest] at h
  | cons c rest =>
    have hc : c ≠ '\\' := by
      rintro rfl
      refine hslash ((List.dropWhile_sublist Decimal.isDigit).subset ?_)
      rw [hrest]
      exact List.mem_cons_self
    rw [hrest] at h
    split at h
    · next hnil => simp at hnil
    · next hcons =>
      simp only [List.cons_append, List.cons.injEq] at hcons
      exact hc hcons.1
    · cases h

/-! ## The end of a path -/

namespace Path

/-- A colon stays where encoded dots are read as dots. -/
theorem colon_mem_dots {l : List Char} (h : ':' ∈ l) : ':' ∈ dots l := by
  fun_induction dots l with
  | case1 e r he ih =>
    have hne : ':' ≠ e := by
      rintro rfl
      revert he
      decide
    exact List.mem_cons_of_mem _ (ih (by simpa [hne] using h))
  | case2 e r he ih =>
    have hrest : ':' = e ∨ ':' ∈ r := by simpa using h
    simpa using hrest.imp_right ih
  | case3 c r hc ih =>
    rcases List.mem_cons.1 h with rfl | h
    · exact List.mem_cons_self
    · exact List.mem_cons_of_mem _ (ih h)
  | case4 => cases h

/-- A last piece with a colon is no piece of dots, so the path ends with it. -/
theorem colon_mem_add {piece : List Char} (h : ':' ∈ piece) (r : Reading) :
    ':' ∈ text (r.add .web true piece).segments := by
  have hseen : ':' ∈ seen piece := List.mem_filter.2 ⟨h, by decide⟩
  have hdots : ∀ m : List Char, ':' ∉ m → (dots (seen piece) == m) = false := by
    intro m hm
    rw [beq_eq_false_iff_ne]
    rintro rfl
    exact hm (colon_mem_dots hseen)
  have hencoded : ':' ∈ encode pathSet (seen piece) := by
    rw [encode, List.mem_flatMap]
    exact ⟨':', hseen, by decide⟩
  rw [add_web, isAbove, isHere, hdots _ (by decide), hdots _ (by decide)]
  simp only [Bool.false_eq_true, if_false, Reading.push, text_append]
  simp [hencoded]

/-- A colon in the last piece of a path is a colon in the path that was read. -/
theorem colon_mem_follow {pieces : List (List Char)} {piece : List Char}
    (hlast : pieces.getLast? = some piece) (h : ':' ∈ piece) (r : Reading) :
    ':' ∈ text (r.follow .web pieces).segments := by
  induction pieces generalizing r with
  | nil => cases hlast
  | cons q qs ih =>
    cases qs with
    | nil =>
      cases hlast
      exact colon_mem_add h r
    | cons s rest => exact ih (by simpa using hlast) _

/-- What stands behind the last slash of a path stays, if there is a colon in it. -/
theorem colon_mem_read (l : List Char) {p : List Char}
    (hp : ∀ c ∈ p, SchemeKind.web.isSlash c = false) :
    ':' ∈ text (read .web (l ++ ':' :: p)).segments := by
  have hmap : p.map (fun c => if SchemeKind.web.isSlash c then '/' else c) = p := by
    rw [List.map_congr_left fun c hc => if_neg (by simp [hp c hc]), List.map_id']
  have hslash : '/' ∉ ':' :: p := by
    rw [List.mem_cons, not_or]
    refine ⟨by decide, fun hmem => ?_⟩
    exact absurd (hp '/' hmem) (by decide)
  unfold read
  extract_lets slashed behind r
  have hbehind : ∃ front, behind = front ++ ':' :: p := by
    have hslashed : slashed = (l.map fun c => if SchemeKind.web.isSlash c then '/' else c).dropWhile
        isPassedOver ++ ':' :: p := by
      unfold slashed
      rw [List.map_append, List.map_cons, hmap]
      exact dropWhile_append_cons (by decide) _ _
    unfold behind
    rw [hslashed]
    -- only a slash is left out at the front, and that is none of what stands behind
    split
    · next hhead =>
      generalize (l.map fun c => if SchemeKind.web.isSlash c then '/' else c).dropWhile
        isPassedOver = front at hhead ⊢
      cases front with
      | nil => cases hhead
      | cons c front => exact ⟨front, rfl⟩
    · exact ⟨_, rfl⟩
  obtain ⟨front, hfront⟩ := hbehind
  obtain ⟨before, hlast⟩ := Text.exists_getLast?_pieces hslash front
  show ':' ∈ text (Reading.follow .web ⟨[], false⟩ (Text.pieces '/' behind)).segments
  rw [hfront]
  exact colon_mem_follow hlast (by simp) _

end Path

/-! ## Addresses that end with a colon and digits -/

/-- What an address has at the root: nothing behind its authority but the one slash. -/
structure AddressesAtRoot (u : Url) (port : Option Nat) : Prop where
  port : u.effectivePort? = port
  path : u.pathText = ['/']
  query : u.query = none
  fragment : u.fragment = none

variable {names : ToAscii} {scheme x digits : List Char} {followed : Bool} {u : Url}

/-- The port in use is the one that is given, or else the one that the scheme implies. -/
theorem effectivePort_eq (u : Url) : u.effectivePort? = u.port.or (impliedPort? u.scheme) := by
  unfold effectivePort?
  cases u.port <;> rfl

/-- A character that is no digit does not stand among digits. -/
theorem not_mem_of_digits (hdigits : ∀ c ∈ digits, Decimal.isDigit c = true) {c : Char}
    (hc : Decimal.isDigit c = false) : c ∉ digits := by
  intro hmem
  rw [hdigits c hmem] at hc
  cases hc

/-- On the web both slashes separate segments. -/
theorem isSlash_web_iff {c : Char} : SchemeKind.web.isSlash c = true ↔ c = '/' ∨ c = '\\' := by
  simp [SchemeKind.isSlash, SchemeKind.special]

/-- No digit is a slash. -/
theorem isSlash_of_digits (hdigits : ∀ c ∈ digits, Decimal.isDigit c = true) :
    ∀ c ∈ digits, SchemeKind.web.isSlash c = false := by
  intro c hc
  rw [Bool.eq_false_iff, ne_eq, isSlash_web_iff]
  rintro (rfl | rfl)
  · exact not_mem_of_digits hdigits (by decide) hc
  · exact not_mem_of_digits hdigits (by decide) hc

/-- A text without slashes is an authority as a whole. -/
theorem authorityOf_eq_self {text : List Char}
    (h : ∀ c ∈ text, SchemeKind.web.isSlash c = false) : authorityOf .web text = text := by
  rw [authorityOf, List.takeWhile_eq_self_iff]
  intro c hc
  rw [h c hc]
  rfl

/-- Without a slash in front of them the digits are the port. -/
theorem port_of_ofAuthority (hweb : kindOf scheme = .web) (hne : digits ≠ [])
    (hdigits : ∀ c ∈ digits, Decimal.isDigit c = true)
    (hslash : ∀ c ∈ x, SchemeKind.web.isSlash c = false)
    (h : ofAuthority names scheme (x ++ ':' :: digits) followed = .ok u) :
    u.AddressesAtRoot (some (Decimal.valueFrom 0 digits)) := by
  obtain ⟨host, rest, hhost, -, hport, hscheme, -, hquery, hfragment, hlocation⟩ :=
    exists_of_ofAuthority h
  have hauthority : authorityOf .web (x ++ ':' :: digits) = x ++ ':' :: digits := by
    apply authorityOf_eq_self
    rw [List.forall_mem_append, List.forall_mem_cons]
    exact ⟨hslash, by decide, isSlash_of_digits hdigits⟩
  have hcolon : ':' ∉ digits := not_mem_of_digits hdigits (by decide)
  have hat : '@' ∉ ':' :: digits := by
    rw [List.mem_cons, not_or]
    exact ⟨by decide, not_mem_of_digits hdigits (by decide)⟩
  obtain ⟨front, hfront, hcut⟩ := exists_cutLast_append hat x
  have hplace : placeOf .web (x ++ ':' :: digits) = cutHost false (front ++ ':' :: digits) := by
    rw [placeOf, hauthority, hcut]
  rw [hweb, hplace] at hhost hport
  rcases cutHost_cases hcolon false front with hhere | hopen | ⟨before, behind, rfl, hearlier⟩
  · rw [hhere] at hport
    obtain ⟨rfl, hvalue⟩ := of_cutPort hne hdigits hport
    refine ⟨?_, ?_, hquery, hfragment⟩
    · rw [effectivePort_eq, hscheme, hvalue]
    · rw [pathText, hlocation hweb, hweb, hauthority, List.drop_length]
      rfl
  · -- a bracket is open, so the digits would end the host
    rw [hopen] at hhost
    have hlast : (front ++ ':' :: digits).getLast? ≠ some ']' := by
      rw [List.append_cons, List.getLast?_append_of_ne_nil _ hne]
      intro hbracket
      exact not_mem_of_digits hdigits (by decide) (List.mem_of_getLast? hbracket)
    have hfilled : (front ++ ':' :: digits).isEmpty = false := by simp
    simp only [hostOf, SchemeKind.special, hfilled, Bool.false_eq_true, if_true, if_false] at hhost
    exact absurd hhost (Host.ofText_ne_ok (by simp) hlast host)
  · rw [hearlier] at hport
    refine absurd hport (cutPort_ne_ok ?_ _)
    intro hmem
    have hx : '\\' ∈ x := hfront.subset (by simp [hmem])
    exact absurd (hslash _ hx) (by decide)

/-- Behind a slash the digits end the path. -/
theorem path_of_ofAuthority (hweb : kindOf scheme = .web)
    (hdigits : ∀ c ∈ digits, Decimal.isDigit c = true) {c : Char} (hc : c ∈ x)
    (hslash : SchemeKind.web.isSlash c = true)
    (h : ofAuthority names scheme (x ++ ':' :: digits) followed = .ok u) : u.pathText ≠ ['/'] := by
  obtain ⟨-, rest, -, -, -, -, -, -, -, hlocation⟩ := exists_of_ofAuthority h
  obtain ⟨front, hfront⟩ : ∃ front, rest ++ (x ++ ':' :: digits).drop
      (authorityOf .web (x ++ ':' :: digits)).length = front ++ ':' :: digits := by
    rw [authorityOf, drop_length_takeWhile, List.dropWhile_append]
    split
    · next hempty =>
      have hall := List.dropWhile_eq_nil_iff.1 (List.isEmpty_iff.1 hempty) c hc
      simp [hslash] at hall
    · exact ⟨_, (List.append_assoc _ _ _).symm⟩
  intro hroot
  rw [pathText, hlocation hweb, hweb, hfront] at hroot
  have hmem := Path.colon_mem_read front (isSlash_of_digits hdigits)
  rw [show Path.text _ = ['/'] from hroot] at hmem
  exact absurd hmem (by decide)

/-- Digits alone are the host. -/
theorem host_of_ofAuthority (hweb : kindOf scheme = .web)
    (hdigits : ∀ c ∈ digits, Decimal.isDigit c = true)
    (h : ofAuthority names scheme digits followed = .ok u) :
    u.AddressesAtRoot (impliedPort? scheme) := by
  obtain ⟨host, rest, -, -, hport, hscheme, -, hquery, hfragment, hlocation⟩ :=
    exists_of_ofAuthority h
  have hauthority := authorityOf_eq_self (isSlash_of_digits hdigits)
  have hcut : (Text.cutLast '@' digits).2 = digits := by
    rw [Text.cutLast, Text.cut_of_not_mem]
    rw [List.mem_reverse]
    exact not_mem_of_digits hdigits (by decide)
  have hplace : placeOf .web digits = (digits, []) := by
    rw [placeOf, hauthority, hcut]
    exact cutHost_of_not_mem (not_mem_of_digits hdigits (by decide)) false
  rw [hweb, hplace] at hport
  obtain ⟨hnone, rfl⟩ := Prod.mk.inj (Except.ok.inj hport)
  refine ⟨?_, ?_, hquery, hfragment⟩
  · rw [effectivePort_eq, hscheme, ← hnone, Option.none_or]
  · rw [pathText, hlocation hweb, hweb, hauthority, List.drop_length]
    rfl

end Url

end ToolRelay
