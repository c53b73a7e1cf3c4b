import DocSite.Proofs.Link.InlineTag
import DocSite.Proofs.Publish.Reads

/-! What can go wrong in each part of a run, part by part: templates, sources, the jobs and the files
that are copied. Every fault has its cause in a path, in a link without a target, in what the
settings name, or in the encoding of a source. -/
namespace DocSite
set_option autoImplicit false

/-! ## Where steps fail -/

section
variable {ε α β σ : Type}

theorem Fault.bind_eq_error_iff {first : Except ε α} {second : α → Except ε β} {e : ε} :
    first >>= second = .error e ↔
      first = .error e ∨ ∃ a, first = .ok a ∧ second a = .error e := by
  cases first with
  | error e' =>
    refine ⟨fun h => .inl (by cases h; rfl), ?_⟩
    rintro (h | ⟨a, h, -⟩)
    · cases h
      rfl
    · cases h
  | ok a =>
    refine ⟨fun h => .inr ⟨a, rfl, h⟩, ?_⟩
    rintro (h | ⟨a', h, ha⟩)
    · cases h
    · cases h
      exact ha

/-- Steps after one another fail where the first of them does that fails at all. -/
theorem Fault.foldlM_eq_error_iff {step : σ → α → Except Fault σ} {xs : List α} {s : σ}
    {e : Fault} :
    xs.foldlM step s = .error e ↔ ∃ before x after t, xs = before ++ x :: after ∧
      before.foldlM step s = .ok t ∧ step t x = .error e := by
  induction xs generalizing s with
  | nil =>
    refine ⟨fun h => (by cases h), ?_⟩
    rintro ⟨before, x, after, t, hxs, -⟩
    exact absurd hxs (by simp)
  | cons x rest ih =>
    rw [List.foldlM_cons, bind_eq_error_iff]
    constructor
    · rintro (hx | ⟨next, hnext, h⟩)
      · exact ⟨[], x, rest, s, rfl, rfl, hx⟩
      · obtain ⟨before, y, after, t, rfl, hbefore, hy⟩ := ih.mp h
        refine ⟨x :: before, y, after, t, rfl, ?_, hy⟩
        rw [List.foldlM_cons]
        exact Fault.bind_eq_ok_iff.mpr ⟨next, hnext, hbefore⟩
    · rintro ⟨before, y, after, t, hxs, hbefore, hy⟩
      rcases List.cons_eq_append_iff.mp hxs with ⟨rfl, htail⟩ | ⟨later, rfl, hrest⟩
      · cases htail
        cases hbefore
        exact .inl hy
      · rw [List.foldlM_cons] at hbefore
        obtain ⟨next, hnext, hlater⟩ := Fault.bind_eq_ok_iff.mp hbefore
        exact .inr ⟨next, hnext, ih.mpr ⟨later, y, after, t, hrest, hlater, hy⟩⟩

end

/-! ## Text -/

namespace Text

/-- What is no UTF-8 has bytes that tell. -/
theorem decodeUtf8_error {bytes : List UInt8} {position : Nat} {pending : Option Pending}
    {e : DecodeError} (h : decodeUtf8 position pending bytes = .error e) :
    ∃ first last byte reason, e = .badBytes "utf-8" first last byte reason := by
  induction bytes generalizing position pending with
  | nil =>
    unfold decodeUtf8 at h
    split at h <;> cases h
    exact ⟨_, _, _, _, rfl⟩
  | cons b rest ih =>
    have hreturn : ∀ {c : Char} {position pending}, (do
        return c :: (← decodeUtf8 position pending rest) : Except DecodeError (List Char)) =
          .error e → ∃ first last byte reason, e = .badBytes "utf-8" first last byte reason := by
      intro c position pending h
      rcases Fault.bind_eq_error_iff.mp h with h | ⟨_, _, h⟩
      · exact ih h
      · cases h
    unfold decodeUtf8 at h
    split at h
    · split at h
      · exact hreturn h
      · split at h
        · exact ih h
        · cases h
          exact ⟨_, _, _, _, rfl⟩
    · split at h
      · dsimp only at h
        split at h
        · exact hreturn h
        · exact ih h
      · cases h
        exact ⟨_, _, _, _, rfl⟩

theorem Encoding.utf8_text_error {bytes : List UInt8} {e : DecodeError}
    (h : Encoding.utf8.text bytes = .error e) :
    ∃ first last byte reason, e = .badBytes "utf-8" first last byte reason := by
  rw [Encoding.text, Decoder.text, Encoding.decode] at h
  cases hd : decodeUtf8 0 none bytes with
  | error e' =>
    rw [hd] at h
    cases h
    exact decodeUtf8_error hd
  | ok cs =>
    rw [hd] at h
    cases h

end Text

/-! ## Pages -/

/-- What may stop a run, the filter for details and the encoding of the sources apart. A path or a
link without a target needs no setting for it; all else needs files of the user or a layout that is
none of a page. -/
inductive Settings.MayStop (settings : Settings) : Fault → Prop where
  | path (e : PathError) : MayStop settings (.unusablePath e)
  | link : MayStop settings .emptyLink
  | copy : settings.staticFiles ≠ [] → MayStop settings .copyOntoItself
  | text {codec : String} {first last : Nat} {byte : UInt8} {reason : String} :
      Page.templateDirectories settings ≠ [] →
      MayStop settings (.undecodable (.badBytes codec first last byte reason))
  | helper : Page.templateDirectories settings ≠ [] → MayStop settings .helperMissing
  | missing : Page.layoutName settings ∉ Page.bundledNames → MayStop settings .layoutMissing
  | endless : Page.layoutName settings ≠ Page.frameFile → MayStop settings .endlessLayout

namespace Page

section
variable {t : FileTree} {s : Settings} {name : String} {e : Fault}

theorem findTemplate_error {directories : List Path}
    (h : findTemplate t name directories = .error e) :
    directories ≠ [] ∧ ∃ codec first last byte reason,
      e = .undecodable (.badBytes codec first last byte reason) := by
  induction directories with
  | nil => cases h
  | cons directory rest ih =>
    refine ⟨List.cons_ne_nil _ _, ?_⟩
    rw [findTemplate] at h
    split at h
    · exact (ih h).2
    · split at h
      · cases h
      · rename_i htext
        cases h
        obtain ⟨first, last, byte, reason, rfl⟩ := Text.Encoding.utf8_text_error htext
        exact ⟨_, first, last, byte, reason, rfl⟩

/-- Besides a text that is no UTF-8, only a name that no file bears is no template. -/
theorem template_error (h : template t s name = .error e) :
    s.MayStop e ∨ e = .layoutMissing ∧ name ∉ bundledNames := by
  unfold template at h
  split at h
  · rename_i hfind
    cases h
    obtain ⟨hne, codec, first, last, byte, reason, rfl⟩ := findTemplate_error hfind
    exact .inl (.text hne)
  · cases h
  · split at h
    · cases h
    · rename_i hbundled
      cases h
      exact .inr ⟨rfl, fun hm => hbundled (List.contains_iff_mem.mpr hm)⟩

theorem template_error_of_bundled (hname : name ∈ bundledNames)
    (h : template t s name = .error e) : s.MayStop e :=
  (template_error h).resolve_right fun hmissing => hmissing.2 hname

/-- The user's own text is in one of the directories of the settings. -/
theorem template_own {text : String} (h : template t s name = .ok (.own text)) :
    templateDirectories s ≠ [] := by
  intro hempty
  unfold template at h
  rw [hempty, findTemplate] at h
  dsimp only at h
  split at h <;> cases h

theorem template_bundled {found : String} (h : template t s name = .ok (.bundled found)) :
    found = name := by
  unfold template at h
  split at h
  · cases h
  · cases h
  · split at h
    · cases h
      rfl
    · cases h

theorem look_error {form : Form} (h : (design t s form).look form = .error e) : s.MayStop e := by
  have hform : form.file ∈ bundledNames := by cases form <;> decide
  rcases Fault.bind_eq_error_iff.mp h with h | ⟨page, -, h⟩
  · exact template_error_of_bundled hform h
  · cases page with
    | own text => cases h
    | bundled found =>
      rcases Fault.bind_eq_error_iff.mp h with h | ⟨frame, hframe, h⟩
      · rcases template_error h with h | ⟨rfl, hmissing⟩
        · exact h
        · exact .missing hmissing
      · cases frame with
        | own text => cases h
        | bundled found =>
          have hfound := template_bundled hframe
          subst hfound
          dsimp only at h
          split at h
          · split at h
            · rcases Fault.bind_eq_error_iff.mp h with h | ⟨parts, -, h⟩
              · exact template_error_of_bundled (by decide) h
              · cases parts <;> cases h
            · cases h
          · rename_i hother
            split at h
            · cases h
            · cases h
              exact .endless fun he => hother (beq_iff_eq.mpr he)

/-- Only where there are templates of the user, pages are drawn by them. -/
theorem look_drawn {form : Form} (h : (design t s form).look form = .ok .drawn) :
    templateDirectories s ≠ [] := by
  obtain ⟨page, hpage, h⟩ := Fault.bind_eq_ok_iff.mp h
  cases page with
  | own text => exact template_own hpage
  | bundled name =>
    obtain ⟨frame, hframe, h⟩ := Fault.bind_eq_ok_iff.mp h
    cases frame with
    | own text => exact template_own hframe
    | bundled found =>
      dsimp only at h
      split at h
      · split at h
        · obtain ⟨parts, hparts, h⟩ := Fault.bind_eq_ok_iff.mp h
          cases parts with
          | own text => exact template_own hparts
          | bundled name => cases h
        · cases h
      · split at h <;> cases h

end

end Page

/-! ## Sources -/

/-- What a reader of text does not catch: the encoding is none, or it refuses a text as a whole. -/
inductive Fault.OfEncoding : Fault → Prop where
  | unknown : OfEncoding .unknownEncoding
  | null : OfEncoding .nullInEncoding
  | refused : OfEncoding (.undecodable .refused)
  | loneHalf : OfEncoding (.undecodable .loneHalf)

/-- The name of an encoding gives no text for the bytes at a path. Bytes that stand for no character
are not such a case: they are told and the source is passed over. -/
inductive FileTree.EncodingFails (t : FileTree) (encodings : Text.Encodings) (encoding : String)
    (path : Path) : Fault → Prop where
  | null : Char.ofNat 0 ∈ encoding.toList → EncodingFails t encodings encoding path .nullInEncoding
  | unknown {bytes : List UInt8} : Char.ofNat 0 ∉ encoding.toList → t.read path = .ok bytes →
      encodings encoding = none → EncodingFails t encodings encoding path .unknownEncoding
  | text {bytes : List UInt8} {decode : Text.Decoder} {why : Text.DecodeError} :
      Char.ofNat 0 ∉ encoding.toList → t.read path = .ok bytes →
      encodings encoding = some decode → decode.text bytes = .error why →
      why = .refused ∨ why = .loneHalf →
      EncodingFails t encodings encoding path (.undecodable why)

/-- UTF-8 is known by its name. -/
def Text.Encodings.KnowUtf8 (encodings : Text.Encodings) : Prop :=
  encodings "utf-8" = some Text.Encoding.utf8.decode

theorem Text.Encoding.all_knowUtf8 : Text.Encodings.KnowUtf8 Text.Encoding.all := by
  have hname : Text.Encoding.ofName? "utf-8" = some .utf8 := by decide +kernel
  rw [Text.Encodings.KnowUtf8, Text.Encoding.all, hname]
  rfl

namespace FileTree.EncodingFails

variable {t : FileTree} {encodings : Text.Encodings} {encoding : String} {path : Path} {e : Fault}

theorem ofEncoding (h : t.EncodingFails encodings encoding path e) : e.OfEncoding := by
  cases h with
  | null _ => exact .null
  | unknown _ _ _ => exact .unknown
  | text _ _ _ _ hwhy =>
    rcases hwhy with rfl | rfl
    · exact .refused
    · exact .loneHalf

/-- The encoding that is used when none is set gives a text or tells which bytes are bad. -/
theorem ne_default (h : t.EncodingFails encodings encoding path e) (hutf8 : encodings.KnowUtf8) :
    encoding ≠ "utf-8" := by
  rintro rfl
  rw [Text.Encodings.KnowUtf8] at hutf8
  cases h with
  | null hnull =>
    revert hnull
    decide
  | unknown _ _ hname =>
    rw [hutf8] at hname
    cases hname
  | text _ _ hname htext hwhy =>
    rw [hutf8] at hname
    cases hname
    obtain ⟨first, last, byte, reason, rfl⟩ := Text.Encoding.utf8_text_error htext
    rcases hwhy with h | h <;> cases h

end FileTree.EncodingFails

namespace Site

section
variable {s s' : Site} {sidebar : Html} {e : Fault}

theorem readSource_of_fails {path : Path}
    (h : s.files.EncodingFails s.around.encodings s.settings.encoding path e) :
    s.readSource path = .error e := by
  unfold readSource FileTree.readTextNamed
  cases h with
  | null hnull => rw [if_pos (List.contains_iff_mem.mpr hnull)]
  | unknown hnull hread hname => rw [if_neg (by simpa using hnull), hread, hname]
  | text hnull hread hname htext hwhy =>
    rw [if_neg (by simpa using hnull), hread, hname]
    rcases hwhy with rfl | rfl <;> simp [htext]

/-- Reading a source fails where the encoding does, or at a path that is none. -/
theorem readSource_error {path : Path} (h : s.readSource path = .error e) :
    s.files.EncodingFails s.around.encodings s.settings.encoding path e ∨
      e = .unusablePath .nullByte := by
  by_cases hnull : Char.ofNat 0 ∈ s.settings.encoding.toList
  · unfold readSource FileTree.readTextNamed at h
    rw [if_pos (List.contains_iff_mem.mpr hnull)] at h
    cases h
    exact .inl (.null hnull)
  · cases hread : s.files.read path with
    | error why =>
      rw [readSource_of_error hread, if_neg (by simpa using hnull)] at h
      split at h
      · cases h
        exact .inr rfl
      · cases h
    | ok bytes =>
      unfold readSource FileTree.readTextNamed at h
      rw [if_neg (by simpa using hnull), hread] at h
      cases hname : s.around.encodings s.settings.encoding with
      | none =>
        rw [hname] at h
        cases h
        exact .inl (.unknown hnull hread hname)
      | some decode =>
        rw [hname] at h
        cases htext : decode.text bytes with
        | ok text => simp [htext] at h
        | error why =>
          cases why with
          | badBytes codec first last byte reason => simp [htext] at h
          | refused =>
            simp only [htext] at h
            cases h
            exact .inl (.text hnull hread hname htext (.inl rfl))
          | loneHalf =>
            simp only [htext] at h
            cases h
            exact .inl (.text hnull hread hname htext (.inr rfl))

/-! ## Jobs -/

theorem writePage_error {url : String} {page : Html} (h : s.writePage url page = .error e) :
    e = .unusablePath .nullByte := by
  unfold writePage at h
  dsimp only at h
  split at h
  · split at h <;> cases h
  · cases h
    rfl
  · cases h

theorem resolveTags_error {page : Html} (h : s.resolveTags page = .error e) : e = .emptyLink := by
  unfold resolveTags at h
  split at h
  · cases h
  · rename_i hresolve
    cases h
    exact (InlineTag.resolveTags_eq_error_iff.mp (congrArg Prod.fst hresolve)).1

/-- A page cannot be drawn only where there are templates of the user. -/
theorem pageOf_error {form : Page.Form} {v : Page.Variables} {framed : Html × Site}
    (h : s.pageOf form v framed = .error e) : s.settings.MayStop e := by
  rcases Fault.bind_eq_error_iff.mp h with h | ⟨look, hlook, h⟩
  · exact Page.look_error h
  · cases look with
    | drawn =>
      dsimp only at h
      unfold draw at h
      split at h
      · cases h
      · cases h
        exact .helper (Page.look_drawn hlook)
    | _ => cases h

theorem draftTopics_error {pageType title : String} {topics : List Page.Topic} {url : String}
    (h : draftTopics sidebar s pageType title topics url = .error e) : s.settings.MayStop e := by
  rcases Fault.bind_eq_error_iff.mp h with h | ⟨page, -, h⟩
  · exact pageOf_error h
  · rcases Fault.bind_eq_error_iff.mp h with h | ⟨_, -, h⟩
    · rw [resolveTags_error h]
      exact .link
    · cases h

theorem draftTutorial_error {t : Tutorial} (h : draftTutorial sidebar s t = .error e) :
    s.settings.MayStop e := by
  rcases Fault.bind_eq_error_iff.mp h with h | ⟨page, -, h⟩
  · exact pageOf_error h
  · rcases Fault.bind_eq_error_iff.mp h with h | ⟨_, -, h⟩
    · rw [resolveTags_error h]
      exact .link
    · cases h

theorem draftListing_error {file : Source.File} (h : draftListing sidebar s file = .error e) :
    s.settings.MayStop e ∨
      s.files.EncodingFails s.around.encodings s.settings.encoding (Path.ofString file.path) e := by
  rcases Fault.bind_eq_error_iff.mp h with h | ⟨read, -, h⟩
  · rcases readSource_error h with h | rfl
    · exact .inr h
    · exact .inl (.path _)
  · cases read with
    | error reason => cases h
    | ok code =>
      rcases Fault.bind_eq_error_iff.mp h with h | ⟨page, -, h⟩
      · have hsettings : (s.addListing file.title).2.settings = s.settings := by
          obtain ⟨_, hadd⟩ := addListing_eq s file.title
          rw [hadd]
        exact .inl (hsettings ▸ pageOf_error h)
      · cases h

/-- A job fails for what may stop a run under the settings, or it lists a source that the encoding
gives no text of. -/
theorem Job.run_error {job : Job} (h : job.run sidebar s = .error e) :
    s.settings.MayStop e ∨ ∃ file, job = .listing file ∧
      s.files.EncodingFails s.around.encodings s.settings.encoding (Path.ofString file.path) e := by
  rcases Fault.bind_eq_error_iff.mp h with h | ⟨⟨draft, drawn⟩, -, h⟩
  · cases job with
    | listing file => exact (draftListing_error h).imp_right fun h => ⟨file, rfl, h⟩
    | globals => exact .inl (draftTopics_error h)
    | home readme => exact .inl (draftTopics_error h)
    | container p => exact .inl (draftTopics_error h)
    | tutorial t => exact .inl (draftTutorial_error h)
  · cases draft with
    | none => cases h
    | some p =>
      obtain ⟨url, page⟩ := p
      have hw : drawn.writePage url page = .error e := h
      rw [writePage_error hw]
      exact .inl (.path _)

/-! ## Copying -/

theorem withFiles_error {change : FileTree → Except PathError FileTree}
    (h : s.withFiles change = .error e) : ∃ why, e = .unusablePath why := by
  unfold withFiles at h
  split at h
  · cases h
  · cases h
    exact ⟨_, rfl⟩

theorem copyOnto_error {source : Option Path} {target : Path} {bytes : List UInt8}
    (h : s.copyOnto source target bytes = .error e) :
    (∃ why, e = .unusablePath why) ∨ e = .copyOntoItself ∧ source ≠ none := by
  unfold copyOnto at h
  split at h
  · rename_i hsame
    cases h
    refine .inr ⟨rfl, ?_⟩
    rintro rfl
    cases hsame
  · exact .inl (withFiles_error h)

/-- Only what comes from a path can be copied onto itself. -/
theorem copyTo_error {source : Option Path} {file : Path} {bytes : List UInt8}
    (h : s.copyTo source file bytes = .error e) :
    (∃ why, e = .unusablePath why) ∨ e = .copyOntoItself ∧ source ≠ none := by
  rcases Fault.bind_eq_error_iff.mp h with h | ⟨s₁, -, h⟩
  · exact .inl (withFiles_error h)
  · split at h
    · cases h
      exact .inl ⟨_, rfl⟩
    · exact copyOnto_error h

theorem copyUserFiles_error {directory : String} (h : s.copyUserFiles directory = .error e) :
    (∃ why, e = .unusablePath why) ∨ e = .copyOntoItself := by
  unfold copyUserFiles at h
  dsimp only at h
  split at h
  · cases h
    exact .inl ⟨_, rfl⟩
  · cases h
  · obtain ⟨_, file, _, t, -, -, h⟩ := Fault.foldlM_eq_error_iff.mp h
    unfold copyUserFile at h
    split at h
    · cases h
    · exact (copyTo_error h).imp_right And.left

theorem copyFiles_error (h : s.copyFiles = .error e) : s.settings.MayStop e := by
  have hpath : (∃ why, e = .unusablePath why) → s.settings.MayStop e := by
    rintro ⟨why, rfl⟩
    exact .path why
  rcases Fault.bind_eq_error_iff.mp h with h | ⟨s₁, h₁, h⟩
  · exact hpath (withFiles_error h)
  · rcases Fault.bind_eq_error_iff.mp h with h | ⟨s₂, h₂, h⟩
    · obtain ⟨_, asset, _, t, -, -, h⟩ := Fault.foldlM_eq_error_iff.mp h
      exact hpath ((copyTo_error h).resolve_right fun hsame => hsame.2 rfl)
    · rcases Fault.bind_eq_error_iff.mp h with h | ⟨s₃, h₃, h⟩
      · exact hpath (withFiles_error h)
      · have hmade := onlyFiles_withFiles (fun _ => FileTree.keeps_makeDirectories) h₁
        have hassets : OnlyFiles s₁ s₂ := onlyFiles_foldlM (fun _ _ _ hf => onlyFiles_copyTo hf) h₂
        have hstyle := onlyFiles_withFiles (fun _ => FileTree.keeps_put) h₃
        have hsettings : s₃.settings = s.settings := by
          obtain ⟨_, _, -, rfl⟩ := (hmade.trans hassets).trans hstyle
          rfl
        obtain ⟨before, directory, after, t, hsplit, -, h⟩ := Fault.foldlM_eq_error_iff.mp h
        rcases copyUserFiles_error h with h | rfl
        · exact hpath h
        · refine .copy ?_
          rw [← hsettings, hsplit]
          simp

theorem prepare_error {sources : List Source.File} (h : s.prepare sources = .error e) :
    s.settings.MayStop e := by
  rcases Fault.bind_eq_error_iff.mp h with h | ⟨_, -, h⟩
  · exact copyFiles_error h
  · cases h

end

end Site
end DocSite
