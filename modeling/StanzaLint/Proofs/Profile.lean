import StanzaLint.Proofs.Ledger
import StanzaLint.Proofs.Memory

/-!
# Title, starting point and hosts of a stanza

The first line that names a title, an address or a starting point counts, and of
the hosts the first line of each origin. In the state of a stanza an empty text
stands for none of them. No line names an empty one, so the state says which lines
came first (`written_profile`). A stanza is a separator after a description, and no
more after any other logical line.
-/

namespace StanzaLint

theorem Url.origin_ne_empty (u : Url) : u.origin ≠ "" := by
  intro h
  have hl := congrArg String.toList h
  simp [origin] at hl

namespace UrlLine

theorem isToken_ne_nil (h : isToken cs = true) : cs ≠ [] := by
  rintro rfl
  cases h

theorem readAlone?_ne_nil (h : readAlone? cs = some value) : value ≠ [] := by
  simp only [readAlone?, Option.ite_none_right_eq_some, Option.some.injEq] at h
  exact h.2 ▸ isToken_ne_nil h.1

theorem readPair?_ne_nil (h : readPair? cs = some value) : value ≠ [] := by
  simp only [readPair?, Option.ite_none_right_eq_some, Option.some.injEq, Bool.and_eq_true] at h
  exact h.2 ▸ isToken_ne_nil h.1.1.2

theorem readSwitched?_ne_nil (h : readSwitched? cs = some value) : value ≠ [] := by
  obtain ⟨rest, -, hr⟩ := List.exists_of_findSome?_eq_some h
  exact readPair?_ne_nil hr

theorem readForm?_ne_nil (h : readForm? cs = some value) : value ≠ [] := by
  obtain ⟨rest, -, hr⟩ := Option.bind_eq_some_iff.mp h
  obtain ⟨last, -, hl⟩ := List.exists_of_findSome?_eq_some hr
  exact readPair?_ne_nil hl

theorem find?_ne_empty (h : find? line = some value) : value ≠ "" := by
  obtain ⟨cs, hf, rfl⟩ := Option.map_eq_some_iff.mp h
  obtain ⟨rest, -, hr⟩ := List.exists_of_findSome?_eq_some hf
  simp only [Option.orElse_eq_orElse, Option.orElse_eq_or, Option.or_eq_some_iff] at hr
  have hne : cs ≠ [] := by
    rcases hr with ha | ⟨-, hs | ⟨-, hf⟩⟩
    · exact readAlone?_ne_nil ha
    · exact readSwitched?_ne_nil hs
    · exact readForm?_ne_nil hf
  intro he
  exact hne (by simpa using congrArg String.toList he)

end UrlLine

namespace Entry

def title? (e : Entry) : Option String :=
  if e.directive = .title ∧ e.payload ≠ "" then some e.payload else none

def url? (e : Entry) : Option String :=
  if e.directive = .url then UrlLine.find? (String.ofList e.text) else none

def isHost (e : Entry) : Bool := e.directive == .host || e.directive == .hostJavaScript

def address? (e : Entry) : Option Url :=
  match e.directive with
  | .url => e.url?.bind fun value => (Address.startingPoint? value).toOption.join
  | .host | .hostJavaScript => (Address.parseHost e.payload).toOption
  | _ => none

def origin? (e : Entry) : Option String := e.address?.map Url.origin

def isStart (e : Entry) : Bool := e.directive == .url && e.origin?.isSome

def isHostOf (origin : String) (e : Entry) : Bool := e.isHost && e.origin? == some origin

theorem title?_ne_empty (e : Entry) : e.title? ≠ some "" := by
  unfold title?
  split
  next h => exact fun he => h.2 (Option.some.inj he)
  next => exact nofun

theorem url?_ne_empty (e : Entry) : e.url? ≠ some "" := by
  unfold url?
  split
  · exact fun he => UrlLine.find?_ne_empty he rfl
  · exact nofun

theorem origin?_ne_empty (e : Entry) : e.origin? ≠ some "" := by
  intro h
  obtain ⟨url, -, ho⟩ := Option.map_eq_some_iff.mp h
  exact url.origin_ne_empty ho

theorem directive_of_isHost (h : isHost e = true) :
    e.directive = .host ∨ e.directive = .hostJavaScript := by
  simpa [isHost] using h

theorem origin?_host (h : isHost e = true) :
    e.origin? = (Address.parseHost e.payload).toOption.map Url.origin := by
  rcases directive_of_isHost h with hd | hd <;> simp [origin?, address?, hd]

theorem url?_url (h : directive e = .url) : e.url? = UrlLine.find? (String.ofList e.text) := by
  simp [url?, h]

/-- A line without an address is judged as an empty one, which leads nowhere. -/
theorem origin?_url (h : directive e = .url) :
    e.origin? = (Address.startingPoint? (e.url?.getD "")).toOption.join.map Url.origin := by
  have hempty : Address.startingPoint? "" = .ok none := rfl
  cases hv : e.url? <;> simp [origin?, address?, h, hv, hempty, Except.toOption]

theorem origin?_eq_none (hu : directive e ≠ .url) (hh : e.isHost = false) : e.origin? = none := by
  have hd : e.directive ≠ .host ∧ e.directive ≠ .hostJavaScript := by simpa [isHost] using hh
  unfold origin? address?
  split
  next h => exact absurd h hu
  next h => exact absurd h hd.1
  next h => exact absurd h hd.2
  next => rfl

end Entry

/-- What a stanza is about. An empty text stands for none. -/
@[ext]
structure Profile where
  title : String
  url : String
  isSeparator : Bool
  /-- The origin of the starting point, and where it stands. -/
  start : String × String
  /-- Where an origin is named as a host. -/
  host : String → Option String

namespace Profile

/-- What lines say about their stanza: in everything the first one counts. Whether it is a
separator depends on the last line, which may name no directive. -/
def of (h : List Entry) (isSeparator : Bool) : Profile where
  title := (h.findSome? Entry.title?).getD ""
  url := (h.findSome? Entry.url?).getD ""
  isSeparator := isSeparator
  start := ((h.find? Entry.isStart).map fun e => (e.origin?.getD "", e.location)).getD ("", "")
  host origin := (h.find? (Entry.isHostOf origin)).map (·.location)

def add (p : Profile) (e : Entry) : Profile where
  title := if p.title = "" then e.title?.getD "" else p.title
  url := if p.url = "" then e.url?.getD "" else p.url
  isSeparator := e.directive == .description || p.isSeparator
  start := if p.start.1 = "" ∧ e.isStart then (e.origin?.getD "", e.location) else p.start
  host origin := (p.host origin).or (if e.isHostOf origin then some e.location else none)

theorem getD_or {x : Option String} (hx : x ≠ some "") (y : Option String) :
    (x.or y).getD "" = if x.getD "" = "" then y.getD "" else x.getD "" := by
  cases x with
  | none => simp
  | some text =>
    have ht : text ≠ "" := fun he => hx (congrArg some he)
    simp [ht]

theorem findSome?_ne_empty {f : Entry → Option String} (hf : ∀ e, f e ≠ some "")
    (h : List Entry) : h.findSome? f ≠ some "" := by
  intro he
  obtain ⟨e, -, hn⟩ := List.exists_of_findSome?_eq_some he
  exact hf e hn

theorem start_of_none {h : List Entry} (hf : h.find? Entry.isStart = none) :
    (of h b).start = ("", "") := by
  simp [of, hf]

theorem start_of_some {h : List Entry} (hf : h.find? Entry.isStart = some e) :
    ∃ origin, e.origin? = some origin ∧ origin ≠ "" ∧
      (of h b).start = (origin, e.location) := by
  have hs : e.origin?.isSome := by
    have hs := List.find?_some hf
    simp only [Entry.isStart, Bool.and_eq_true] at hs
    exact hs.2
  obtain ⟨origin, ho⟩ := Option.isSome_iff_exists.mp hs
  refine ⟨origin, ho, fun he => e.origin?_ne_empty (he ▸ ho), ?_⟩
  simp [of, hf, ho]

theorem of_concat (h : List Entry) (isSeparator : Bool) (e : Entry) :
    of (h ++ [e]) (e.directive == .description || isSeparator) = (of h isSeparator).add e := by
  apply Profile.ext
  · simp only [of, add, List.findSome?_append, List.findSome?_singleton]
    exact getD_or (findSome?_ne_empty Entry.title?_ne_empty h) e.title?
  · simp only [of, add, List.findSome?_append, List.findSome?_singleton]
    exact getD_or (findSome?_ne_empty Entry.url?_ne_empty h) e.url?
  · rfl
  · cases hf : h.find? Entry.isStart with
    | none =>
      simp only [add, start_of_none hf, true_and]
      simp only [of, List.find?_append, hf, Option.none_or, List.find?_singleton]
      split <;> rfl
    | some first =>
      obtain ⟨origin, -, hne, ho⟩ := start_of_some (b := isSeparator) hf
      have ha : (h ++ [e]).find? Entry.isStart = some first := by simp [hf]
      simp only [add, ho, hne, false_and, if_false]
      simp only [of, hf] at ho
      simp only [of, ha, ho]
  · funext origin
    simp only [of, add, List.find?_append, Option.map_or, List.find?_singleton]
    congr 1
    split <;> rfl

end Profile

namespace Stanza

variable (s : Stanza)

def profile : Profile :=
  ⟨s.title, s.url, s.isSeparator, (s.urlOrigin, s.urlLocation), s.origins.location?⟩

theorem withOption_profile (d : Directive) : (s.withOption d).profile = s.profile := by
  unfold withOption
  split
  · rfl
  · split <;> rfl

theorem withHostnameEdit_profile (settings : Settings) (payload : String) :
    (s.withHostnameEdit settings payload).profile = s.profile := by
  unfold withHostnameEdit
  split
  · dsimp only
    split <;> rfl
  · rfl

end Stanza

namespace Profile

variable (p : Profile) {e : Entry}

theorem add_title (h : e.directive ≠ .title) : (p.add e).title = p.title := by
  by_cases hp : p.title = "" <;> simp [add, Entry.title?, h, hp]

theorem add_url (h : e.directive ≠ .url) : (p.add e).url = p.url := by
  by_cases hp : p.url = "" <;> simp [add, Entry.url?, h, hp]

theorem add_isSeparator (h : e.directive ≠ .description) :
    (p.add e).isSeparator = p.isSeparator := by
  simp [add, h]

theorem add_start (h : e.directive ≠ .url) : (p.add e).start = p.start := by
  simp [add, Entry.isStart, h]

theorem add_host (h : e.isHost = false) : (p.add e).host = p.host := by
  funext origin
  simp [add, Entry.isHostOf, h]

end Profile

namespace Stanza

variable (s : Stanza) {e : Entry}

theorem withTitle_profile (h : e.directive = .title) :
    (s.withTitle e.payload).profile = s.profile.add e := by
  have hu : e.directive ≠ .url := by simp [h]
  have hd : e.directive ≠ .description := by simp [h]
  have hh : e.isHost = false := by simp [Entry.isHost, h]
  have hs : (s.withTitle e.payload).profile =
      { s.profile with title := if s.title = "" then e.payload else s.title } := by
    unfold withTitle
    split <;> rfl
  rw [hs]
  refine Profile.ext ?_ (s.profile.add_url hu).symm (s.profile.add_isSeparator hd).symm
    (s.profile.add_start hu).symm (s.profile.add_host hh).symm
  by_cases hp : e.payload = "" <;> simp [Profile.add, profile, Entry.title?, h, hp]

theorem withHost_profile (h : e.isHost = true) :
    (s.withHost e.payload e.location).profile = s.profile.add e := by
  have hd := Entry.directive_of_isHost h
  have ht : e.directive ≠ .title := by rcases hd with hd | hd <;> simp [hd]
  have hu : e.directive ≠ .url := by rcases hd with hd | hd <;> simp [hd]
  have hn : e.directive ≠ .description := by rcases hd with hd | hd <;> simp [hd]
  have ho := Entry.origin?_host h
  unfold withHost
  split
  next url hp =>
    refine Profile.ext (s.profile.add_title ht).symm (s.profile.add_url hu).symm
      (s.profile.add_isSeparator hn).symm (s.profile.add_start hu).symm ?_
    funext origin
    have hi : e.isHostOf origin = (url.origin == origin) := by
      simp [Entry.isHostOf, h, ho, hp, Except.toOption]
    simp only [profile, Profile.add, Seen.location?_note, hi, beq_iff_eq, eq_comm (a := origin)]
  next fault hp =>
    refine Profile.ext (s.profile.add_title ht).symm (s.profile.add_url hu).symm
      (s.profile.add_isSeparator hn).symm (s.profile.add_start hu).symm ?_
    funext origin
    simp [profile, Profile.add, Entry.isHostOf, ho, hp, Except.toOption]

theorem withOrigin_profile (origin location : String) :
    (s.withOrigin origin location).profile =
      { s.profile with start :=
        if s.profile.start.1 = "" then (origin, location) else s.profile.start } := by
  by_cases h : s.urlOrigin = "" <;> simp [withOrigin, profile, h]

theorem withFirst_profile (value : String) :
    (if s.url = "" then { s with url := value } else s).profile =
      { s.profile with url := if s.profile.url = "" then value else s.profile.url } := by
  by_cases h : s.url = "" <;> simp [profile, h]

theorem withUrl_profile (h : e.directive = .url) :
    (s.withUrl ((UrlLine.find? (String.ofList e.text)).getD "") e.location).profile =
      s.profile.add e := by
  have ht : e.directive ≠ .title := by simp [h]
  have hd : e.directive ≠ .description := by simp [h]
  have hh : e.isHost = false := by simp [Entry.isHost, h]
  have ho := Entry.origin?_url h
  rw [← Entry.url?_url h]
  have hf := s.withFirst_profile (e.url?.getD "")
  unfold withUrl
  dsimp only
  split
  next url hp =>
    have horigin : e.origin? = some url.origin := by rw [ho, hp]; rfl
    rw [withOrigin_profile, hf]
    refine Profile.ext (s.profile.add_title ht).symm rfl (s.profile.add_isSeparator hd).symm ?_
      (s.profile.add_host hh).symm
    simp [Profile.add, Entry.isStart, h, horigin]
  next hn =>
    have horigin : e.origin? = none := by
      rw [ho]
      match hp : Address.startingPoint? (e.url?.getD "") with
      | .error fault => rfl
      | .ok none => rfl
      | .ok (some url) => exact absurd hp (hn url)
    rw [hf]
    refine Profile.ext (s.profile.add_title ht).symm rfl (s.profile.add_isSeparator hd).symm ?_
      (s.profile.add_host hh).symm
    simp [Profile.add, Entry.isStart, horigin]

theorem after_profile (settings : Settings) (e : Entry) :
    (s.after settings e).profile = s.profile.add e := by
  have ha : (s.after settings e).profile =
      ((s.withOption e.directive).withValue settings e).profile := rfl
  rw [ha, ← s.withOption_profile e.directive]
  generalize s.withOption e.directive = s
  have hrest (ht : e.directive ≠ .title) (hu : e.directive ≠ .url) (hh : e.isHost = false) :
      { s.profile with isSeparator := (s.profile.add e).isSeparator } = s.profile.add e :=
    Profile.ext (s.profile.add_title ht).symm (s.profile.add_url hu).symm rfl
      (s.profile.add_start hu).symm (s.profile.add_host hh).symm
  have hsame (hd : e.directive ≠ .description) (ht : e.directive ≠ .title)
      (hu : e.directive ≠ .url) (hh : e.isHost = false) : s.profile = s.profile.add e := by
    rw [← hrest ht hu hh, s.profile.add_isSeparator hd]
  unfold withValue
  split
  next hd =>
    rw [withHostnameEdit_profile]
    exact hsame (by simp [hd]) (by simp [hd]) (by simp [hd]) (by simp [Entry.isHost, hd])
  next hd =>
    generalize decide (e.payload ≠ "") = isOpen
    exact hsame (by simp [hd]) (by simp [hd]) (by simp [hd]) (by simp [Entry.isHost, hd])
  next hd =>
    generalize decide (e.payload ≠ "-*") = isOpen
    exact hsame (by simp [hd]) (by simp [hd]) (by simp [hd]) (by simp [Entry.isHost, hd])
  next hd => exact s.withTitle_profile hd
  next hd =>
    rw [← hrest (by simp [hd]) (by simp [hd]) (by simp [Entry.isHost, hd])]
    simp [profile, Profile.add, hd]
  next hd => exact s.withUrl_profile hd
  next hd => exact s.withHost_profile (by simp [Entry.isHost, hd])
  next hd => exact s.withHost_profile (by simp [Entry.isHost, hd])
  next ht hd hu hh hj => exact hsame hd ht hu (by simpa [Entry.isHost] using ⟨hh, hj⟩)

end Stanza

def Sheet.endsInDescription (sheet : Sheet) : Bool :=
  sheet.lines.getLast?.any fun l => (Entry.of? l.1 l.2).any (·.directive == .description)

namespace Stanza

theorem written_profile (settings : Settings) (sheet : Sheet) :
    (written settings sheet.lines).profile =
      Profile.of sheet.entries sheet.endsInDescription := by
  obtain ⟨lines, pending⟩ := sheet
  simp only [Sheet.entries, Sheet.endsInDescription]
  induction lines using List.reverseRecOn with
  | nil => rfl
  | append_singleton lines l ih =>
    -- every logical line first ends a run of descriptions
    have hclear : { written settings lines with isSeparator := false }.profile =
        Profile.of (lines.filterMap fun l => Entry.of? l.1 l.2) false := by
      simp only [profile, Profile.of, Profile.mk.injEq] at ih ⊢
      exact ⟨ih.1, ih.2.1, trivial, ih.2.2.2⟩
    rw [written_concat, List.filterMap_append, logical, List.filterMap_cons, List.filterMap_nil,
      List.getLast?_concat, Option.any_some]
    cases Entry.of? l.1 l.2 with
    | none =>
      rw [List.append_nil]
      exact hclear
    | some e =>
      have hadd := Profile.of_concat (lines.filterMap fun l => Entry.of? l.1 l.2) false e
      rw [Bool.or_false] at hadd
      rw [Option.any_some, hadd, ← hclear]
      exact { written settings lines with isSeparator := false }.after_profile settings e

theorem Tells.profile {sheet : Sheet} {s : Stanza} (h : s.Tells settings sheet) :
    s.profile = Profile.of sheet.entries sheet.endsInDescription := by
  rw [← written_profile settings, ← h.plain]
  rfl

end Stanza

end StanzaLint
