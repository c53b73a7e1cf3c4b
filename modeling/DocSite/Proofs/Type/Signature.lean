import DocSite.Proofs.Link.Displayed
import DocSite.Proofs.Text.Lists
import DocSite.Proofs.Type.Alike
import DocSite.Proofs.Type.Tokens
import DocSite.Signature

/-! What a call signature shows. Its markup is properly nested, made of spans and links only, and
its text is written from the names of the parameters and the types as they stand, whatever
characters they hold. -/
namespace DocSite
set_option autoImplicit false

/-! ## The text of a signature -/

/-- The words behind a parameter in a signature. -/
def Parameter.signatureWords (p : Parameter) : List String :=
  (if p.isOptional then ["opt"] else []) ++ p.attributeWords

/-- A parameter as a text. -/
def Parameter.signatureText (p : Parameter) : String :=
  (if p.isRepeatable then "…" else "") ++ p.name ++ ", ".intercalate p.signatureWords

namespace Signature

/-- Parameters as a text: those that have a name and are no part of another one. -/
def writtenParams (params : List Parameter) : String :=
  "(" ++ ", ".intercalate
    ((params.filter fun p => p.name ≠ "" ∧ '.' ∉ p.name.toList).map Parameter.signatureText) ++ ") "

/-- The words of what is returned, each once, in the order in which they first appear. -/
def wordsOf (returns : List Parameter) : List String :=
  (returns.flatMap Parameter.attributeWords).eraseDups

/-- The types of what is returned, in order. -/
def typesOf (returns : List Parameter) : List String := returns.flatMap fun p => p.types.getD []

/-- Words in parentheses, if there are any. -/
def parenthesized (words : List String) : String :=
  if words = [] then "" else "(" ++ ", ".intercalate words ++ ") "

/-- What is returned as a text, which is empty without a type. -/
def writtenReturns (returns : List Parameter) : String :=
  if typesOf returns = [] then ""
  else " → " ++ parenthesized (wordsOf returns) ++ "\x7b" ++ "|".intercalate (typesOf returns) ++
    "\x7d"

/-- The tags and the attributes of signatures; any text may stand in them. -/
def vocabulary : Vocabulary where
  tags := ["span", "a"]
  allowsText _ := True
  allowsAttribute name value :=
    name = "href" ∨
      name = "class" ∧ value ∈ ["signature", "type-signature", "signature-attributes"]

theorem vocabulary_hasLinks : vocabulary.HasLinks := ⟨by simp [vocabulary], fun _ => .inl rfl⟩

theorem displays_text (s : String) : (Html.text s).Displays vocabulary s :=
  Html.displays_text trivial

theorem displays_raw {s : String} (h : Html.isPlain s = true) :
    (Html.raw s).Displays vocabulary s :=
  Html.displays_raw h trivial

theorem displays_span {css : String}
    (hcss : css ∈ ["signature", "type-signature", "signature-attributes"]) {body : Html}
    {shown : String} (hbody : body.Displays vocabulary shown) :
    (Html.styled "span" css body).Displays vocabulary shown := by
  have hplain : Html.isPlain css = true := by
    simp only [List.mem_cons, List.not_mem_nil, or_false] at hcss
    obtain rfl | rfl | rfl := hcss <;> decide
  have hclass : vocabulary.allowsAttribute "class" css := Or.inr ⟨rfl, hcss⟩
  exact Html.displays_styled (by simp [vocabulary]) hplain hclass hbody

end Signature

/-! ## Types -/

namespace TypeLinker
open Signature

variable {l : TypeLinker}

/-- A name that stands for itself and is shown in full is shown as it was, linked or not. -/
theorem displays_token (hcompact : l.compact = false) (hexpand : l.expand = false) (r : Registry)
    {t : TypeToken} (ht : t.text ≠ []) :
    (l.token r t).Displays vocabulary (String.ofList t.text) := by
  have hmeant : l.meant (String.ofList t.text) = String.ofList t.text := by simp [meant, hexpand]
  have hshown : l.shown (String.ofList t.text) = .text (String.ofList t.text) := by
    simp [shown, hcompact]
  have hname : String.ofList t.text ≠ "" := by simpa using ht
  by_cases hlinks : l.links (String.ofList t.text) = true
  · by_cases hn : t.isName = true
    · rw [token_of_links hn hlinks, link, hmeant, hshown]
      exact Registry.displays_linkTo vocabulary_hasLinks r _ (Html.isEmpty_text hname)
        (displays_text _)
    · rw [token_of_not_isName (Bool.eq_false_iff.mpr hn)]
      exact displays_text _
  · rw [token_of_not_links (Bool.eq_false_iff.mpr hlinks)]
    exact displays_text _

theorem displays_expression (hcompact : l.compact = false) (hexpand : l.expand = false)
    (r : Registry) (text : String) : (l.expression r text).Displays vocabulary text := by
  have htokens := TypeToken.tokenizes_list text.toList
  have hdisplays : (l.expression r text).Displays vocabulary
      (String.join ((TypeToken.list text.toList).map fun t => String.ofList t.text)) :=
    Html.displays_concat fun t ht => displays_token hcompact hexpand r (htokens.ne_nil t ht)
  have hwhole : String.join ((TypeToken.list text.toList).map fun t => String.ofList t.text) =
      text := by
    rw [← String.toList_inj, String.toList_join, List.flatMap_map]
    simpa [TypeToken.textOf] using htokens.joined
  rwa [hwhole] at hdisplays

end TypeLinker

/-! ## Signatures -/

namespace Signature

theorem displays_parameter (p : Parameter) :
    (Signature.parameter p).Displays vocabulary p.signatureText := by
  have hname : (if p.isRepeatable then Html.raw "&hellip;" ++ .text p.name
      else .text p.name).Displays vocabulary ((if p.isRepeatable then "…" else "") ++ p.name) := by
    have hsign : (Html.raw "&hellip;").Displays vocabulary "…" :=
      Html.displays_sign (p := ("&hellip;", "…")) (by decide)
    cases p.isRepeatable
    · simpa using displays_text p.name
    · exact hsign.append (displays_text p.name)
  have hparts : Signature.parameter p = if p.signatureWords.isEmpty then
      (if p.isRepeatable then Html.raw "&hellip;" ++ .text p.name else .text p.name)
    else (if p.isRepeatable then Html.raw "&hellip;" ++ .text p.name else .text p.name) ++
      .styled "span" "signature-attributes" (.text (Text.join ", " p.signatureWords)) := rfl
  rw [hparts]
  by_cases hnone : p.signatureWords = []
  · simpa [hnone, Parameter.signatureText] using hname
  · have hsome : ¬ p.signatureWords.isEmpty = true := by simpa using hnone
    have hwords : (Html.styled "span" "signature-attributes"
        (.text (Text.join ", " p.signatureWords))).Displays vocabulary
          (", ".intercalate p.signatureWords) := by
      rw [Text.join_eq_intercalate]
      exact displays_span (by simp) (displays_text _)
    rw [if_neg hsome]
    exact hname.append hwords

theorem shows_iff (p : Parameter) : shows p = true ↔ p.name ≠ "" ∧ '.' ∉ p.name.toList := by
  simp [shows]

theorem displays_params (params : List Parameter) :
    (withParams .empty params).Displays vocabulary (writtenParams params) := by
  have hfilter : params.filter shows =
      params.filter fun p => p.name ≠ "" ∧ '.' ∉ p.name.toList :=
    List.filter_congr fun p _ => by rw [Bool.eq_iff_iff, shows_iff, decide_eq_true_iff]
  have hnames : (Html.join (.raw ", ") ((params.filter shows).map Signature.parameter)).Displays
      vocabulary (", ".intercalate ((params.filter shows).map Parameter.signatureText)) :=
    Html.displays_join (displays_raw (by decide)) fun p _ => displays_parameter p
  have hopen : (Html.raw "(").Displays vocabulary "(" := displays_raw (by decide)
  have hclose : (Html.raw ") ").Displays vocabulary ") " := displays_raw (by decide)
  rw [withParams, Html.empty_append, writtenParams, ← hfilter]
  exact (hopen.append hnames).append hclose

theorem displays_attributeMarkup (words : List String) :
    (attributeMarkup words).Displays vocabulary (parenthesized words) := by
  unfold attributeMarkup parenthesized
  by_cases hnone : words = []
  · simpa [hnone] using Html.displays_empty
  · simpa [hnone, Text.join_eq_intercalate] using displays_text _

theorem displays_returns {l : TypeLinker} (hcompact : l.compact = false)
    (hexpand : l.expand = false) (r : Registry) (returns : List Parameter) :
    (returnMarkup (Text.distinct (returns.flatMap Parameter.attributeWords))
      (returns.flatMap fun p => l.expressions r p.types)).Displays vocabulary
        (writtenReturns returns) := by
  have htypes : (returns.flatMap fun p => l.expressions r p.types) =
      (typesOf returns).map (l.expression r) := by
    rw [typesOf, List.map_flatMap]
    rfl
  have hlist : (Html.join (.raw "|") ((typesOf returns).map (l.expression r))).Displays vocabulary
      ("|".intercalate (typesOf returns)) := by
    have hbar : (Html.raw "|").Displays vocabulary "|" := displays_raw (by decide)
    have hall : ∀ t ∈ typesOf returns, (l.expression r t).Displays vocabulary (id t) := fun t _ =>
      TypeLinker.displays_expression hcompact hexpand r t
    have h := Html.displays_join hbar hall
    rwa [List.map_id] at h
  have harrow : (Html.raw " &rarr; ").Displays vocabulary " → " := by
    have hblank : (Html.raw " ").Displays vocabulary " " := displays_raw (by decide)
    have hsign : (Html.raw "&rarr;").Displays vocabulary "→" :=
      Html.displays_sign (p := ("&rarr;", "→")) (by decide)
    exact (hblank.append hsign).append hblank
  have hopen : (Html.raw "\x7b").Displays vocabulary "\x7b" := displays_raw (by decide)
  have hclose : (Html.raw "\x7d").Displays vocabulary "\x7d" := displays_raw (by decide)
  rw [htypes, Text.distinct_eq_eraseDups, returnMarkup, writtenReturns]
  by_cases hnone : typesOf returns = []
  · simpa [hnone] using Html.displays_empty
  · have hsome : ¬ ((typesOf returns).map (l.expression r)).isEmpty = true := by simpa using hnone
    rw [if_neg hsome, if_neg hnone]
    exact (((harrow.append (displays_attributeMarkup _)).append hopen).append hlist).append hclose

end Signature

/-- Whatever the parameters and the types are called, the signature of a doclet that had none is
properly nested markup of spans and links, and it shows the parameters in parentheses and, where a
type is returned, the arrow with the words and the types of what is returned. -/
theorem Doclet.signature_faithful {d : Doclet} {l : TypeLinker} (hfresh : d.signature = .empty)
    (hcompact : l.compact = false) (hexpand : l.expand = false) (r : Registry) :
    (d.addCallSignature l r).signature.Displays Signature.vocabulary
        (Signature.writtenParams d.params ++ Signature.writtenReturns d.returns) ∧
      Html.visible (d.addCallSignature l r).signature.markup =
        Signature.writtenParams d.params ++ Signature.writtenReturns d.returns := by
  have hparams := Signature.displays_params d.params
  have hreturns := Signature.displays_returns hcompact hexpand r d.returns
  have hdisplays : (d.addCallSignature l r).signature.Displays Signature.vocabulary
      (Signature.writtenParams d.params ++ Signature.writtenReturns d.returns) := by
    rw [addCallSignature, hfresh]
    have hfirst : (Html.styled "span" "signature" (Signature.withParams .empty d.params)).Displays
        Signature.vocabulary (Signature.writtenParams d.params) :=
      Signature.displays_span (by simp) hparams
    exact hfirst.append (Signature.displays_span (by simp) hreturns)
  exact ⟨hdisplays, hdisplays.visible (by decide)⟩

/-- A function with brackets, references and bars in its names. -/
def hostileFunction : Doclet :=
  { kind := "function"
    name := "f"
    params := [{ name := "<b>", isRepeatable := true, isOptional := true }, { name := "a.b" }, {},
      { name := "x&lt;y", nullable := .bool false }]
    returns := [{ types := some ["Foo", "\"</a>\"|Foo"], nullable := .bool true }, {},
      { types := some ["Foo"], nullable := .bool false }] }

/-- A linker that knows one class, which is linked. -/
def fooLinker : TypeLinker := { index := ⟨[("Foo", some "Foo")]⟩ }

def fooRegistry : Registry := { urls := ⟨[("Foo", "Foo.html")]⟩ }

theorem hostileFunction_faithful :
    (hostileFunction.signature = .empty ∧ fooLinker.compact = false ∧ fooLinker.expand = false) ∧
      (hostileFunction.addCallSignature fooLinker fooRegistry).signature.links =
        ["Foo.html", "Foo.html", "Foo.html"] ∧
      Html.visible (hostileFunction.addCallSignature fooLinker fooRegistry).signature.markup =
        "(…<b>opt, x&lt;ynon-null)  → (nullable, non-null) \x7bFoo|\"</a>\"|Foo|Foo\x7d" := by
  refine ⟨⟨rfl, rfl, rfl⟩, by decide +kernel, ?_⟩
  have hfaithful := Doclet.signature_faithful (d := hostileFunction) (l := fooLinker) rfl rfl rfl
    fooRegistry
  rw [hfaithful.2]
  decide +kernel

end DocSite
