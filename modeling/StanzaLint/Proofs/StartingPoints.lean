import StanzaLint.Proofs.BareDomains
import StanzaLint.Proofs.Origins

/-!
# Starting points lead to hosts

A starting point is accepted for its host, and its scheme is not asked for. So all that
can be said of an accepted value is that it has a scheme, and behind the colon a place
where a host may stand (`parse_leads`). At each of these places every plain host is
accepted (`Site.accepted`), so a value need not start with `http://` or `https://`
(`foreign_scheme_accepted`). A line is told once if its value is not accepted, and then
leaves no origin (`hosted_starting_points`).
-/

namespace StanzaLint

open Text

namespace Url

-- ---------------------------------------------------------------------------
-- Where a host may stand
-- ---------------------------------------------------------------------------

/-- A host may stand anywhere behind a scheme with hosts that are looked up. Files and the other
schemes have one only behind two slashes. -/
inductive Leads : (scheme : String) → (rest : List Char) → Prop
  | lookedUp {scheme : String} : scheme ∈ lookedUp → Leads scheme rest
  | file : c = '/' ∨ c = '\\' → d = '/' ∨ d = '\\' → Leads "file" (c :: d :: rest)
  | other {scheme : String} : Leads scheme ('/' :: '/' :: rest)

theorem bind_eq_ok {r : Except ε α} {next : α → Except ε β} :
    r >>= next = .ok b ↔ ∃ a, r = .ok a ∧ next a = .ok b := by
  cases r <;> simp [bind, Except.bind]

theorem isSlash_iff {c : Char} : isSlash true c = true ↔ c = '/' ∨ c = '\\' := by simp [isSlash]

theorem lookedUp_of_special {scheme : String} (hs : isSpecial scheme = true)
    (hf : scheme ≠ "file") : scheme ∈ lookedUp := by
  have hport : (defaultPort? scheme).isSome = true := by simpa [isSpecial, hf] using hs
  unfold defaultPort? at hport
  split at hport
  · decide
  · decide
  · decide
  · decide
  · decide
  · cases hport

theorem parseHosted_scheme {scheme : String} (h : parseHosted scheme cs = .ok url) :
    url.scheme = scheme := by
  unfold parseHosted at h
  obtain ⟨_, -, h⟩ := bind_eq_ok.mp h
  cases h
  rfl

theorem parseFileHost_scheme (h : parseFileHost cs = .ok url) : url.scheme = "file" := by
  unfold parseFileHost at h
  dsimp only at h
  split at h
  · cases h
    rfl
  · obtain ⟨_, -, h⟩ := bind_eq_ok.mp h
    cases h
    rfl

theorem parseFile_leads (h : parseFile cs = .ok url) :
    url.scheme = "file" ∧ (url.host?.isSome = true → Leads "file" cs) := by
  unfold parseFile at h
  split at h
  · split at h
    next c d rest hslashes =>
      rw [Bool.and_eq_true, isSlash_iff, isSlash_iff] at hslashes
      exact ⟨parseFileHost_scheme h, fun _ => .file hslashes.1 hslashes.2⟩
    · cases h
      exact ⟨rfl, fun hh => by cases hh⟩
  · cases h
    exact ⟨rfl, fun hh => by cases hh⟩

theorem parseOther_leads {scheme : String} (h : parseOther scheme cs = .ok url) :
    url.scheme = scheme ∧ (url.host?.isSome = true → Leads scheme cs) := by
  unfold parseOther at h
  split at h
  · exact ⟨parseHosted_scheme h, fun _ => .other⟩
  · cases h
    exact ⟨rfl, fun hh => by cases hh⟩
  · cases h
    exact ⟨rfl, fun hh => by cases hh⟩

/-- A URL has the scheme that its text starts with. If it has a host, there is a place for it. -/
theorem parse_leads {text : String} {url : Url} (h : parse text = .ok url) :
    ∃ name rest, IsScheme name ∧ clean text.toList = name ++ ':' :: rest ∧
      url.scheme = String.ofList (name.map Char.toLower) ∧
      (url.host?.isSome = true → Leads url.scheme rest) := by
  have hread : ∃ scheme rest, splitScheme? (clean text.toList) = some (scheme, rest) ∧
      url.scheme = scheme ∧ (url.host?.isSome = true → Leads scheme rest) := by
    unfold parse at h
    split at h
    · cases h
    next rest hs => exact ⟨"file", rest, hs, parseFile_leads h⟩
    next scheme rest hfile hs =>
      have hfile : scheme ≠ "file" := by
        rintro rfl
        exact hfile rfl
      refine ⟨scheme, rest, hs, ?_⟩
      split at h
      next hspecial =>
        exact ⟨parseHosted_scheme h, fun _ => .lookedUp (lookedUp_of_special hspecial hfile)⟩
      next => exact parseOther_leads h
  obtain ⟨scheme, rest, hs, rfl, hleads⟩ := hread
  obtain ⟨name, hname, hclean, hscheme⟩ := splitScheme?_eq_some_iff.mp hs
  exact ⟨name, rest, hname, hclean, hscheme, hleads⟩

end Url

-- ---------------------------------------------------------------------------
-- Plain hosts
-- ---------------------------------------------------------------------------

theorem Address.startingPoint?_eq_some_iff {value : String} {url : Url} :
    startingPoint? value = .ok (some url) ↔
      Url.parse value = .ok url ∧ url.host?.isSome = true := by
  unfold startingPoint?
  split
  next found hp =>
    rw [hp, Except.ok.injEq, Except.ok.injEq]
    constructor
    · intro h
      split at h
      next hh =>
        cases h
        exact ⟨rfl, hh⟩
      next => cases h
    · rintro ⟨rfl, hh⟩
      rw [if_pos hh]
  next hp => simp [hp]
  next hp => simp [hp]
  next fault _ _ hp => simp [hp]

namespace Site

open Url

variable (s : Site)

theorem percentEncode_name {cs : List Char} (h : ∀ c ∈ cs, isNameChar c = true) :
    percentEncode [] cs = cs := by
  induction cs with
  | nil => rfl
  | cons c cs ih =>
    rw [List.forall_mem_cons] at h
    have hc : alwaysEncoded c = false := by
      simpa using name_all (P := fun c => !alwaysEncoded c) (by decide +kernel) h.1
    have hcons : percentEncode [] (c :: cs) = c :: percentEncode [] cs := by
      simp [percentEncode, hc]
    rw [hcons, ih h.2]

theorem readHost_other {scheme : String} (hs : isSpecial scheme = false) :
    readHost scheme s.host = .ok (.name (String.ofList s.host)) := by
  have hname : ∀ c ∈ s.host, isNameChar c = true := fun c hc => s.plain.isNameChar hc
  have hrefused : s.host.any isRefused = false := by
    rw [List.any_eq_false]
    intro c hc
    simpa using name_all (P := fun c => !isRefused c) (by decide +kernel) (hname c hc)
  have hbracket : ∀ cs, s.host ≠ '[' :: cs := by
    intro cs hcs
    exact absurd (hname '[' (by simp [hcs])) (by decide)
  rw [readHost, hs, Host.parseOpaque]
  · simp [hrefused, percentEncode_name hname]
  · exact hbracket

theorem parse_other {text : String} {name rest : List Char} (hname : IsScheme name)
    (hs : isSpecial (String.ofList (name.map Char.toLower)) = false)
    (hclean : clean text.toList = name ++ ':' :: '/' :: '/' :: (s.authority ++ rest))
    (hr : rest.head? = s.suffix.head?) :
    let scheme := String.ofList (name.map Char.toLower)
    Url.parse text = .ok (finish scheme
      (some ⟨"", "", some (.name (String.ofList s.host)),
        s.number?.filter (some · ≠ defaultPort? scheme)⟩)
      (hostPath false) rest) := by
  intro scheme
  have hfile : scheme ≠ "file" := by
    intro hf
    rw [show String.ofList (name.map Char.toLower) = "file" from hf] at hs
    cases hs
  have hhost : String.ofList s.host ≠ "" := by simp [s.plain.ne_nil]
  have hsplit := splitScheme?_eq_some_iff.mpr ⟨name, hname, hclean, rfl⟩
  rw [parse_of_scheme hsplit hfile, if_neg (by simp [hs]), parseOther,
    s.parseHosted (s.readHost_other hs) hhost hr, hs]

/-- The place before a host: any slashes behind a scheme with hosts that are looked up, and two
behind any other that is not for files. -/
def IsPlace (scheme : String) (slashes : List Char) : Prop :=
  scheme ∈ lookedUp ∧ (∀ c ∈ slashes, c = '/' ∨ c = '\\') ∨
    scheme ≠ "file" ∧ slashes = ['/', '/']

theorem accepted {f : Framed} {name slashes : List Char} (hname : IsScheme name)
    (hplace : IsPlace (String.ofList (name.map Char.toLower)) slashes)
    (hkept : f.kept = name ++ ':' :: (slashes ++ (s.authority ++ s.suffix))) :
    ∃ url, Address.startingPoint? f.text = .ok (some url) ∧
      url.scheme = String.ofList (name.map Char.toLower) := by
  rw [← f.clean_text] at hkept
  by_cases hl : String.ofList (name.map Char.toLower) ∈ lookedUp
  · have hslashes : ∀ c ∈ slashes, isSlash true c = true := by
      intro c hc
      rw [isSlash_iff]
      rcases hplace with ⟨-, hall⟩ | ⟨-, rfl⟩
      · exact hall c hc
      · exact .inl (by simpa using hc)
    have hparse := s.parse_slashed hkept hl (String.toList_ofList).symm hslashes rfl
    exact ⟨_, Address.startingPoint?_eq_some_iff.mpr ⟨hparse, rfl⟩, rfl⟩
  · rcases hplace with ⟨hmem, -⟩ | ⟨hfile, rfl⟩
    · exact absurd hmem hl
    · have hother : isSpecial (String.ofList (name.map Char.toLower)) = false := by
        by_contra hs
        exact hl (lookedUp_of_special (by simpa using hs) hfile)
      have hparse := s.parse_other hname hother hkept rfl
      exact ⟨_, Address.startingPoint?_eq_some_iff.mpr ⟨hparse, rfl⟩, rfl⟩

end Site

-- ---------------------------------------------------------------------------
-- Lines
-- ---------------------------------------------------------------------------

open Diagnostic (coded)

/-- What is said of a value that does not lead to a host. -/
def Diagnostic.addressFaults (ds : List Diagnostic) : List Diagnostic :=
  coded .urlUnparsable ds ++ coded .urlWithoutScheme ds

open Diagnostic (addressFaults)

namespace Processor

variable {checks : Checks} {p : Processor} {sheet : Sheet} {e : Entry}

theorem addressFaults_url (p : Processor) (settings : Settings) (hd : e.directive = .url) :
    let faults := addressFaults (p.valueFindings settings e)
    (faults = [] ∧ ∃ url, Address.startingPoint? (e.url?.getD "") = .ok (some url)) ∨
      (∃ fault, faults = [fault]) ∧
        ¬∃ url, Address.startingPoint? (e.url?.getD "") = .ok (some url) := by
  intro faults
  have hfaults : faults = addressFaults (p.startingPointFindings settings (e.url?.getD "")) := by
    simp only [faults, p.valueFindings_url settings hd, urlFindings, Entry.url?_url hd]
    simp [addressFaults, Diagnostic.code]
  rw [hfaults, startingPointFindings]
  rcases Address.startingPoint? (e.url?.getD "") with fault | _ | url
  · exact .inr ⟨⟨.urlUnparsable fault, by simp [addressFaults, Diagnostic.code]⟩, by simp⟩
  · exact .inr ⟨⟨.urlWithoutScheme, by simp [addressFaults, Diagnostic.code]⟩, by simp⟩
  · refine .inl ⟨?_, url, rfl⟩
    simp [addressFaults, originFindings, Diagnostic.code]

theorem step_profile (h : p.stanza.Tells checks.settings sheet) {line location : String}
    (he : sheet.completes? location (Line.read line) = some e) :
    (p.step checks line location).1.stanza.profile =
      { p.stanza with isSeparator := false }.profile.add e := by
  rw [step_eq]
  cases hl : Line.read line with
  | complete text =>
    simp only [hl, Sheet.completes?] at he
    rw [read_complete h, logicalLine_stanza, Stanza.logical, he]
    exact Stanza.after_profile _ checks.settings e
  | _ =>
    rw [hl] at he
    cases he

end Processor

namespace Progress

section
variable {checks : Checks} {s : Progress} {ledger : Ledger} {text location : String} {e : Entry}

theorem perform_addressFaults (told : s.Told checks.settings ledger)
    (he : ledger.completes? (.line text location) = some e) :
    addressFaults (s.perform checks (.line text location)).2 =
      addressFaults (s.processor.valueFindings checks.settings e) := by
  have hcoded : ∀ c : Code, c.isOfForm = false →
      coded c (s.perform checks (.line text location)).2 =
        coded c (s.processor.valueFindings checks.settings e) := by
    intro c hc
    rw [perform_coded hc told, he]
    rfl
  simp only [addressFaults, hcoded .urlUnparsable rfl, hcoded .urlWithoutScheme rfl]

theorem perform_start (told : s.Told checks.settings ledger)
    (he : ledger.completes? (.line text location) = some e) :
    let after := (s.perform checks (.line text location)).1.processor.stanza
    (after.urlOrigin, after.urlLocation) =
      if s.processor.stanza.urlOrigin = "" ∧ e.isStart then (e.origin?.getD "", e.location)
      else (s.processor.stanza.urlOrigin, s.processor.stanza.urlLocation) :=
  congrArg Profile.start (Processor.step_profile told.current he)

theorem perform_accepted (told : s.Told checks.settings ledger)
    (he : ledger.completes? (.line text location) = some e) (hd : e.directive = .url) {url : Url}
    (hurl : Address.startingPoint? (e.url?.getD "") = .ok (some url)) :
    let after := (s.perform checks (.line text location)).1.processor.stanza
    addressFaults (s.perform checks (.line text location)).2 = [] ∧
      (s.processor.stanza.urlOrigin = "" →
        after.urlOrigin = url.origin ∧ after.urlLocation = e.location) := by
  intro after
  constructor
  · rw [perform_addressFaults told he]
    rcases s.processor.addressFaults_url checks.settings hd with ⟨hnone, -⟩ | ⟨-, hrefused⟩
    · exact hnone
    · exact absurd ⟨url, hurl⟩ hrefused
  · intro hfirst
    have horigin : e.origin? = some url.origin := by
      rw [Entry.origin?_url hd, hurl]
      rfl
    simpa [hfirst, Entry.isStart, hd, horigin] using perform_start told he

theorem perform_refused (told : s.Told checks.settings ledger)
    (he : ledger.completes? (.line text location) = some e) (hd : e.directive = .url)
    (hrefused : ¬∃ url, Address.startingPoint? (e.url?.getD "") = .ok (some url)) :
    let after := (s.perform checks (.line text location)).1.processor
    (∃ fault, addressFaults (s.perform checks (.line text location)).2 = [fault]) ∧
      after.stanza.urlOrigin = s.processor.stanza.urlOrigin ∧
      after.stanza.urlLocation = s.processor.stanza.urlLocation ∧
      after.stanza.origins.location? = s.processor.stanza.origins.location? ∧
      after.origins = s.processor.origins := by
  intro after
  have horigin : e.origin? = none := by
    rw [Entry.origin?_url hd]
    rcases hvalue : Address.startingPoint? (e.url?.getD "") with fault | _ | url
    · rfl
    · rfl
    · exact absurd ⟨url, hvalue⟩ hrefused
  have hstart : (after.stanza.urlOrigin, after.stanza.urlLocation) =
      (s.processor.stanza.urlOrigin, s.processor.stanza.urlLocation) := by
    simpa [Entry.isStart, horigin] using perform_start told he
  refine ⟨?_, congrArg Prod.fst hstart, congrArg Prod.snd hstart, ?_, ?_⟩
  · rw [perform_addressFaults told he]
    rcases s.processor.addressFaults_url checks.settings hd with ⟨-, haccepted⟩ | ⟨hfault, -⟩
    · exact absurd haccepted hrefused
    · exact hfault
  · have hhost : e.isHost = false := by simp [Entry.isHost, hd]
    exact (congrArg Profile.host (Processor.step_profile told.current he)).trans
      (Profile.add_host _ hhost)
  · -- a line that names a directive closes no stanza
    have hopen : Line.read text ≠ .closing := by
      intro hclosing
      simp [Ledger.completes?, hclosing, Sheet.completes?] at he
    exact (s.processor.step_origins checks text location).trans (if_neg hopen)

end

/-- An accepted starting point has a scheme and a place for a host behind it, and every plain host
in such a place is accepted. Whether the scheme is `http` or `https` does not matter. A line with
a value that is not accepted is told so once and leaves the origins as they were. With one that is
accepted it is not told so, and the first of the stanza leaves its origin. -/
theorem hosted_starting_points (f : Url.Framed) (checks : Checks) (history : List Action) :
    (∀ value, ∃ framed : Url.Framed, framed.text = value) ∧
    (∀ url, Address.startingPoint? f.text = .ok (some url) →
      ∃ name rest, Url.IsScheme name ∧ f.kept = name ++ ':' :: rest ∧
        url.scheme = String.ofList (name.map Char.toLower) ∧ Url.Leads url.scheme rest) ∧
    (∀ (site : Site) name slashes, Url.IsScheme name →
      Site.IsPlace (String.ofList (name.map Char.toLower)) slashes →
      f.kept = name ++ ':' :: (slashes ++ (site.authority ++ site.suffix)) →
      ∃ url, Address.startingPoint? f.text = .ok (some url) ∧
        url.scheme = String.ofList (name.map Char.toLower)) ∧
    ∀ text location e,
      (Ledger.of history).completes? (.line text location) = some e → e.directive = .url →
      let s := (run {} checks history).1
      let after := (s.perform checks (.line text location)).1.processor
      let faults := addressFaults (s.perform checks (.line text location)).2
      (∀ url, Address.startingPoint? (e.url?.getD "") = .ok (some url) → faults = [] ∧
        (s.processor.stanza.urlOrigin = "" →
          after.stanza.urlOrigin = url.origin ∧ after.stanza.urlLocation = e.location)) ∧
      ((¬∃ url, Address.startingPoint? (e.url?.getD "") = .ok (some url)) →
        (∃ fault, faults = [fault]) ∧
        after.stanza.urlOrigin = s.processor.stanza.urlOrigin ∧
        after.stanza.urlLocation = s.processor.stanza.urlLocation ∧
        after.stanza.origins.location? = s.processor.stanza.origins.location? ∧
        after.origins = s.processor.origins) := by
  refine ⟨Url.exists_framed, fun url h => ?_, fun site name slashes hname hplace hkept => ?_, ?_⟩
  · obtain ⟨hparse, hhost⟩ := Address.startingPoint?_eq_some_iff.mp h
    obtain ⟨name, rest, hname, hclean, hscheme, hleads⟩ := Url.parse_leads hparse
    exact ⟨name, rest, hname, f.clean_text ▸ hclean, hscheme, hleads hhost⟩
  · exact site.accepted hname hplace hkept
  · intro text location e he hd s after faults
    have told := run_told checks history
    exact ⟨fun url hurl => perform_accepted told he hd hurl, perform_refused told he hd⟩

/-- A scheme behind a control and with a tab in it, and slashes of both kinds. -/
def slashed : Url.Framed where
  lead := ['\x01']
  body := "fT\tp:\\/a.org:80?x".toList
  trail := []
  edges := by simp
  first := by
    rintro c ⟨⟩
    decide
  last := by
    rintro c ⟨⟩
    decide

def slashedSite : Site where
  host := "a.org".toList
  port := some "80".toList
  suffix := "?x".toList
  plain := ⟨by decide, by decide, by decide, by decide, by decide⟩
  inRange := by
    rintro digits ⟨⟩
    exact ⟨by decide, by decide, by decide⟩
  apart := by
    rintro c ⟨⟩
    decide

theorem hosted_starting_points_slashed :
    Url.IsScheme "fTp".toList ∧ Site.IsPlace "ftp" ['\\', '/'] ∧
      slashed.kept = "fTp".toList ++
        ':' :: (['\\', '/'] ++ (slashedSite.authority ++ slashedSite.suffix)) ∧
      (∃ url, Address.startingPoint? slashed.text = .ok (some url) ∧ url.scheme = "ftp") ∧
    let checks : Checks := ⟨{}, .pages fun _ => .ok none⟩
    let s := (run {} checks [.line "Title A" "f:1"]).1
    ∃ e, (Ledger.of [.line "Title A" "f:1"]).completes? (.line "U mailto:a@b.org" "f:2") = some e ∧
      e.directive = .url ∧
      (¬∃ url, Address.startingPoint? (e.url?.getD "") = .ok (some url)) ∧
      ∃ fault, addressFaults (s.perform checks (.line "U mailto:a@b.org" "f:2")).2 = [fault] := by
  obtain ⟨-, -, hplain, hline⟩ := hosted_starting_points slashed ⟨{}, .pages fun _ => .ok none⟩
    [.line "Title A" "f:1"]
  have hname : Url.IsScheme "fTp".toList := by
    refine ⟨⟨'f', rfl, rfl⟩, fun c hc => .inl ?_⟩
    exact List.all_eq_true.mp (by decide : "fTp".toList.all Char.isAlphanum = true) c hc
  have hplace : Site.IsPlace "ftp" ['\\', '/'] := .inl ⟨by decide, by simp⟩
  have hkept : slashed.kept = "fTp".toList ++
      ':' :: (['\\', '/'] ++ (slashedSite.authority ++ slashedSite.suffix)) := by decide +kernel
  refine ⟨hname, hplace, hkept, hplain slashedSite _ _ hname hplace hkept, ?_⟩
  intro checks s
  have hread : ((Ledger.of [.line "Title A" "f:1"]).completes? (.line "U mailto:a@b.org" "f:2")).map
      (fun e => (e.directive, e.url?)) = some (.url, some "mailto:a@b.org") := by decide +kernel
  have hnone : (Address.startingPoint? "mailto:a@b.org").toOption.join = none := by decide +kernel
  obtain ⟨e, he, hvalue⟩ := Option.map_eq_some_iff.mp hread
  obtain ⟨hd, hurl⟩ := Prod.mk.inj hvalue
  have hrefused : ¬∃ url, Address.startingPoint? (e.url?.getD "") = .ok (some url) := by
    rintro ⟨url, h⟩
    rw [hurl, Option.getD_some] at h
    rw [h] at hnone
    cases hnone
  exact ⟨e, he, hd, hrefused, ((hline _ _ e he hd).2 hrefused).1⟩

theorem foreign_scheme_accepted :
    let checks : Checks := ⟨{}, .pages fun _ => .ok none⟩
    let s := (run {} checks [.line "Title A" "test:1"]).1
    let value := "ftp://a.example.com"
    let result := s.perform checks (.line "URL ftp://a.example.com" "test:2")
    ¬"http://".toList <+: value.toList.map Char.toLower ∧
      ¬"https://".toList <+: value.toList.map Char.toLower ∧
      UrlLine.find? "URL ftp://a.example.com" = some value ∧
      ((Address.startingPoint? value).toOption.join.map Url.origin) = some value ∧
      result.2 = [] ∧ result.1.processor.stanza.urlOrigin = value := by
  decide +kernel

end Progress

end StanzaLint
