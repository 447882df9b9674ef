import AmpArticle.Proofs.Css.Rules
import AmpArticle.Proofs.Css.Templates
import AmpArticle.Proofs.Markup.Classes
import AmpArticle.Proofs.Page.Naming
import AmpArticle.Proofs.Page.Sizes

/-!
Clipped images. Each takes the next number and has a class of its own, which connects its box and its picture with
their rules; so the rules of one image are not changed by any other, whatever prefix the classes have.

Results:
- `viewportClass_injective`, `uniqueClass_runs`: numbers tell classes apart, and are given out one after the other;
- `build_plain`, `build_clipped`: what one call makes, and what it leaves in the rules;
- `builds_shown`: the same of calls one after the other;
- `builds_apart`: after any calls, each clipped image has the rules that it alone would have.
-/

namespace AmpArticle.Page

open Markup (Element Node IsWord)
open Markup.Node (customsIn)

variable {s t : State}

/-! ## Numbers -/

/-- the class name that a clipped image has from its number -/
def viewportClass (k : Nat) : String := "viewport" ++ "-" ++ toString k

theorem viewportClass_injective : Function.Injective viewportClass := fun _ _ h => (numberedClass_inj h).2

theorem isClassSpace_digit {c : Char} (h : c.isDigit = true) : Markup.isClassSpace c = false := by
  simp only [Markup.isClassSpace, Bool.eq_false_iff, ne_eq, List.contains_iff_mem]
  intro hmem
  fin_cases hmem <;> exact absurd h (by decide)

theorem viewportClass_isWord (k : Nat) : IsWord (viewportClass k).toList := by
  have hlead : IsWord ("viewport" ++ "-").toList := by decide
  rw [viewportClass, String.toList_append]
  exact hlead.append fun c hc => isClassSpace_digit (Json.allDigits_toString k c hc)

theorem viewportClass_ne_empty (k : Nat) : viewportClass k ≠ "" := by simp [viewportClass]

/-- the number of images that were clipped so far -/
def State.clipped (s : State) : Nat := (lookup? "viewport" s.classCounts).getD 0

theorem uniqueClass_runs {own : String} (h : Runs (Rendering.uniqueClass "viewport") s own t) :
    own = viewportClass (s.clipped + 1) ∧
      t = { s with classCounts := insertEntry "viewport" (s.clipped + 1) s.classCounts } := by
  obtain ⟨rfl, rfl⟩ := runs_uniqueClass.1 h
  exact ⟨rfl, rfl⟩

/-- a class name that is not taken for one with a number: a word other than these -/
structure Ordinary (p name : String) : Prop where
  word : IsWord name.toList
  other : ∀ k, name ≠ viewportClass k
  /-- without a name the prefix alone is a class -/
  empty : name = "" → IsWord p.toList

/-- a word that does not end in a digit -/
theorem ordinary_of_last {p name : String} {c : Char} (hword : IsWord name.toList)
    (hlast : name.toList.getLast? = some c) (hc : c.isDigit = false) : Ordinary p name := by
  refine ⟨hword, ?_, ?_⟩
  · rintro k rfl
    rw [viewportClass, String.toList_append, List.getLast?_append_of_ne_nil _ (Json.toString_ne_nil k)] at hlast
    have hdigit := Json.allDigits_toString k c (List.mem_of_getLast? hlast)
    rw [hc] at hdigit
    cases hdigit
  · rintro rfl
    cases hlast

/-! ## Rules of an image -/

/-- an image that was clipped: its number, its box and how it lies over the box -/
structure Clip where
  number : Nat
  box : Box
  view : Media.Viewport

namespace Clip

variable {p : String} {a b : Clip}

/-- the selector of the box -/
def boxSelector (p : String) (a : Clip) : String := "div." ++ (p ++ viewportClass a.number)

/-- the selector of the picture -/
def pictureSelector (p : String) (a : Clip) : String := "amp-img." ++ (p ++ viewportClass a.number)

/-- the rules of the box: its size, and that it clips -/
def boxRules (a : Clip) : Css.Declarations :=
  [(.ofText "width", a.box.width.text ++ "px"), (.ofText "height", a.box.height.text ++ "px"),
    (.ofText "overflow", "hidden")]

/-- the rules of the picture: how far it is moved -/
def pictureRules (a : Clip) : Css.Declarations :=
  [(.ofText "transform", s!"translate({a.view.x}px, {a.view.y}px)")]

/-- the rules of both -/
def blocks (p : String) (a : Clip) : List (Css.Key × Css.Declarations) :=
  [(.ofText (a.boxSelector p), a.boxRules), (.ofText (a.pictureSelector p), a.pictureRules)]

/-- the rules of both as they are declared -/
def declarations (p : String) (a : Clip) : List Css.Declaration :=
  [⟨a.boxSelector p, "width", a.box.width.text ++ "px"⟩, ⟨a.boxSelector p, "height", a.box.height.text ++ "px"⟩,
    ⟨a.boxSelector p, "overflow", "hidden"⟩,
    ⟨a.pictureSelector p, "transform", s!"translate({a.view.x}px, {a.view.y}px)"⟩]

/-! ### Selectors of different images -/

theorem boxSelector_eq (p : String) (a : Clip) :
    a.boxSelector p = Css.Template.fill p ["div.", viewportClass a.number] := (String.append_assoc ..).symm

theorem pictureSelector_eq (p : String) (a : Clip) :
    a.pictureSelector p = Css.Template.fill p ["amp-img.", viewportClass a.number] := (String.append_assoc ..).symm

theorem boxSelector_ne_pictureSelector : a.boxSelector p ≠ b.pictureSelector p := by
  rw [boxSelector_eq, pictureSelector_eq]
  intro h
  have htemplates := Css.fill_injective p (.box a.number) (.picture b.number) h
  exact absurd (List.cons.inj htemplates).1 (by decide)

theorem boxSelector_inj (h : a.boxSelector p = b.boxSelector p) : a.number = b.number := by
  rw [boxSelector_eq, boxSelector_eq] at h
  have htemplates := Css.fill_injective p (.box a.number) (.box b.number) h
  exact viewportClass_injective (List.cons.inj (List.cons.inj htemplates).2).1

theorem pictureSelector_inj (h : a.pictureSelector p = b.pictureSelector p) : a.number = b.number := by
  rw [pictureSelector_eq, pictureSelector_eq] at h
  have htemplates := Css.fill_injective p (.picture a.number) (.picture b.number) h
  exact viewportClass_injective (List.cons.inj (List.cons.inj htemplates).2).1

/-- **Different numbers share no selector.** -/
theorem selectors_apart (h : a.number ≠ b.number) :
    ∀ x ∈ [a.boxSelector p, a.pictureSelector p], ∀ y ∈ [b.boxSelector p, b.pictureSelector p], x ≠ y := by
  simp only [List.forall_mem_cons, List.not_mem_nil, IsEmpty.forall_iff, implies_true, and_true]
  exact ⟨⟨mt boxSelector_inj h, boxSelector_ne_pictureSelector⟩,
    ⟨boxSelector_ne_pictureSelector.symm, mt pictureSelector_inj h⟩⟩

theorem declarations_selector {w : Css.Declaration} (h : w ∈ a.declarations p) :
    w.selector ∈ [a.boxSelector p, a.pictureSelector p] := by
  simp only [declarations, List.mem_cons, List.not_mem_nil, or_false] at h
  rcases h with rfl | rfl | rfl | rfl <;> simp

/-- the blocks of an image alone -/
theorem blocks_declarations (p : String) (a : Clip) : Css.blocks (a.declarations p) = a.blocks p := by
  have hne : a.boxSelector p ≠ a.pictureSelector p := boxSelector_ne_pictureSelector
  simp [Css.blocks, Css.updateAll, declarations, Css.update, Css.setBlock, Css.Key.ofText, hne, blocks, boxRules,
    pictureRules, Css.Declarations.set]

section Several

variable {clips : List Clip}

/-- **Images with numbers of their own** leave the blocks that each leaves alone. -/
theorem blocks_flatMap (h : (clips.map number).Nodup) :
    Css.blocks (clips.flatMap (declarations p)) = clips.flatMap (blocks p) := by
  have hapart : clips.Pairwise fun a b => a.number ≠ b.number := List.pairwise_map.1 h
  refine (Css.updateAll_flatMap (hapart.imp fun hne w hw w' hw' => ?_)).trans ?_
  · exact selectors_apart hne _ (declarations_selector hw) _ (declarations_selector hw')
  · exact congrArg (clips.flatMap ·) (funext (blocks_declarations p))

theorem blocks_nodup (h : (clips.map number).Nodup) :
    ((clips.flatMap (blocks p)).map fun b => b.1.identity).Nodup := by
  have hapart : clips.Pairwise fun a b => a.number ≠ b.number := List.pairwise_map.1 h
  rw [List.map_flatMap, List.nodup_flatMap]
  refine ⟨fun a _ => ?_, hapart.imp fun hne => ?_⟩
  · simpa [blocks, Css.Key.ofText] using boxSelector_ne_pictureSelector
  · have hselectors := selectors_apart (p := p) hne
    simpa [Function.onFun, List.disjoint_left, blocks, Css.Key.ofText] using hselectors

/-- the rules of one image among those of all -/
theorem under_blocks (h : (clips.map number).Nodup) {rules : Css.RuleSet}
    (hrules : rules.blocks = clips.flatMap (blocks p)) {a : Clip} (ha : a ∈ clips) :
    rules.under (a.boxSelector p) = a.boxRules ∧ rules.under (a.pictureSelector p) = a.pictureRules := by
  have hmem {b : Css.Key × Css.Declarations} (hb : b ∈ a.blocks p) : b ∈ clips.flatMap (blocks p) :=
    List.mem_flatMap.2 ⟨a, ha, hb⟩
  rw [Css.RuleSet.under, Css.RuleSet.under, hrules]
  exact ⟨Css.underIn_of_mem (blocks_nodup h) (hmem (by simp [blocks])),
    Css.underIn_of_mem (blocks_nodup h) (hmem (by simp [blocks]))⟩

end Several

end Clip

/-! ## Calls -/

/-- a call that builds an image -/
structure ImageCall where
  setting : Setting
  picture : Picture
  sizing : Sizing
  name : String
  box : Box
  boxName : String

namespace ImageCall

/-- how the image is built -/
def style (call : ImageCall) : ImageStyle := ⟨call.sizing, .name call.name, call.box, .name call.boxName⟩

/-- the call -/
def build (call : ImageCall) : Rendering Built := image call.setting call.picture call.style

/-- whether the image is clipped -/
def isClipped (call : ImageCall) : Bool := call.sizing = .viewport

end ImageCall

/-- an element, alone or in the figure with its caption, where all custom elements beside it are brought by markup of
the caption -/
inductive Captioned (e : Element) : Option Caption → Built → Prop
  | bare : Captioned e none (.ofElement e)
  | figure {caption : Caption} {holder below : Element} :
    holder.tag = "figure" → holder.children = [] →
    (customsIn [below.toNode]).Perm ((captionMarkups (some caption)).flatMap Markup.customsOf) →
    Captioned e (some caption) (.ofElement (holder.append
      (if caption.place = some .above then [below.toNode, e.toNode] else [e.toNode, below.toNode])))

/-- an image that is not clipped has no class with a number -/
structure IsPlain (p : String) (e : Element) : Prop where
  tag : e.tag = "amp-img"
  children : e.children = []
  classes : ∀ k, ¬ e.Carries (p ++ viewportClass k)

/-- a box and the picture in it: the class with its number is the only one with a number that both have -/
structure IsClip (p : String) (number : Nat) (holder picture : Element) : Prop where
  holderTag : holder.tag = "div"
  holderChildren : holder.children = [picture.toNode]
  holderClasses : ∀ k, holder.Carries (p ++ viewportClass k) ↔ k = number
  pictureTag : picture.tag = "amp-img"
  pictureChildren : picture.children = []
  pictureClasses : ∀ k, picture.Carries (p ++ viewportClass k) ↔ k = number

/-- how a picture lies over the box of a call, by the size that is found for it -/
def Covers (call : ImageCall) (view : Media.Viewport) : Prop :=
  ∃ found, call.setting.resolver.resolve call.picture.url .image = .ok found ∧
    Media.cover (.int (usedSize found.size).width) (.int (usedSize found.size).height) call.box.width call.box.height =
      .ok view

/-- what calls make when `n` images were clipped before: for each call what it gives, and the images that are clipped -/
inductive Shown (p : String) : Nat → List ImageCall → List Built → List Clip → Prop
  | nil {n : Nat} : Shown p n [] [] []
  | plain {n : Nat} {call : ImageCall} {calls : List ImageCall} {b : Built} {bs : List Built} {clips : List Clip}
    {e : Element} : call.isClipped = false → IsPlain p e → Captioned e call.picture.caption b →
    Shown p n calls bs clips → Shown p n (call :: calls) (b :: bs) clips
  | clipped {n : Nat} {call : ImageCall} {calls : List ImageCall} {b : Built} {bs : List Built} {clips : List Clip}
    {holder picture : Element} {view : Media.Viewport} : call.isClipped = true → IsClip p (n + 1) holder picture →
    Covers call view → Captioned holder call.picture.caption b → Shown p (n + 1) calls bs clips →
    Shown p n (call :: calls) (b :: bs) (⟨n + 1, call.box, view⟩ :: clips)

section Numbers

variable {p : String} {n : Nat} {calls : List ImageCall} {bs : List Built} {clips : List Clip}

/-- clipped images are numbered one after the other -/
theorem Shown.numbers (h : Shown p n calls bs clips) : clips.map Clip.number = List.range' (n + 1) clips.length := by
  induction h with
  | nil => rfl
  | plain _ _ _ _ ih => exact ih
  | clipped _ _ _ _ _ ih => rw [List.map_cons, ih, List.length_cons, List.range'_succ]

/-- their boxes are those of the calls that clip -/
theorem Shown.boxes (h : Shown p n calls bs clips) :
    clips.map Clip.box = (calls.filter ImageCall.isClipped).map ImageCall.box := by
  induction h with
  | nil => rfl
  | plain hplain _ _ _ ih => rw [ih, List.filter_cons_of_neg (by simp [hplain])]
  | clipped hclipped _ _ _ _ ih => rw [List.map_cons, ih, List.filter_cons_of_pos hclipped, List.map_cons]

end Numbers

/-! ## One call -/

/-- what a conversion keeps while no image is clipped: prefix, rules and numbers -/
def State.sheet (s : State) : String × Css.RuleSet × List (String × Nat) := (s.classPrefix, s.rules, s.classCounts)

/-- the state with the rules of a clipped image, and its number taken -/
def State.clip (s : State) (a : Clip) : State :=
  { s with
    classCounts := insertEntry "viewport" a.number s.classCounts
    rules := { s.rules with blocks := Css.updateAll Css.setBlock (a.declarations s.classPrefix) s.rules.blocks } }

theorem of_sheet (h : t.sheet = s.sheet) :
    t.classPrefix = s.classPrefix ∧ t.rules = s.rules ∧ t.clipped = s.clipped := by
  obtain ⟨hclassPrefix, hrest⟩ := Prod.mk.inj h
  obtain ⟨hrules, hcounts⟩ := Prod.mk.inj hrest
  exact ⟨hclassPrefix, hrules, by rw [State.clipped, hcounts, State.clipped]⟩

theorem clip_clipped (s : State) (a : Clip) : (s.clip a).clipped = a.number := by
  rw [State.clipped, State.clip, lookup?_insertEntry]
  rfl

theorem clip_sheet (h : t.sheet = s.sheet) (a : Clip) :
    (t.clip a).sheet = (s.clip a).sheet := by
  obtain ⟨hclassPrefix, hrest⟩ := Prod.mk.inj h
  obtain ⟨hrules, hcounts⟩ := Prod.mk.inj hrest
  simp only [State.sheet, State.clip, hclassPrefix, hrules, hcounts]

theorem figure_captioned {e : Element} {caption : Option Caption} {b : Built} (h : Runs (figure e caption) s b t) :
    Captioned e caption b := by
  unfold figure at h
  cases caption with
  | none =>
    obtain ⟨rfl, -⟩ := runs_pure.1 h
    exact .bare
  | some caption =>
    obtain ⟨holder, _, hholder, hrest⟩ := runs_bind.1 h
    obtain ⟨below, _, hbelow, hrest⟩ := runs_bind.1 hrest
    obtain ⟨_, -, rfl⟩ := runs_map.1 hrest
    obtain ⟨htag, -, hchildren⟩ := create_new hholder
    refine .figure htag hchildren ?_
    simpa only [List.nil_append] using (caption_weaves hbelow).customs

section Pictures

variable {url : String} {size : Media.Size} {call : ImageCall} {e : Element}

/-- attributes beside the class that have names of their own -/
theorem mediaAttributes_nodup {width height layout : String} :
    ("class" :: [("src", url), ("width", width), ("height", height), ("layout", layout)].map Prod.fst).Nodup := by
  simp

/-- an image with one class name has no class with a number -/
theorem isPlain_created {width height layout : String} (hname : Ordinary s.classPrefix call.name)
    (h : Runs (Rendering.create "amp-img" (some (.name call.name))
      [("src", url), ("width", width), ("height", height), ("layout", layout)]) s e t) : IsPlain s.classPrefix e := by
  obtain ⟨htag, -, hchildren⟩ := create_new h
  refine ⟨htag, hchildren, fun k => ?_⟩
  cases hpresent : (Css.ClassNames.name call.name).isPresent with
  | true =>
    have hclass := created_class hpresent (Css.ClassNames.classAttribute.eq_1 ..) mediaAttributes_nodup h
    rw [Markup.carries_single hclass hname.word (viewportClass_isWord k) (viewportClass_ne_empty k) hname.empty]
    exact (hname.other k).symm
  | false => exact Markup.not_carries_of_none (created_unclassed hpresent mediaAttributes_nodup h) _

theorem plainImage_runs (hname : Ordinary s.classPrefix call.name) (h : Runs (plainImage url size call.style) s e t) :
    IsPlain s.classPrefix e ∧ s = t := by
  unfold plainImage at h
  split at h
  · obtain ⟨height, -, hrest⟩ := runs_liftM_bind.1 h
    obtain ⟨_, _, hsides, himage⟩ := runs_bind.1 hrest
    obtain ⟨rfl, rfl⟩ := runs_pure.1 hsides
    exact ⟨isPlain_created hname himage, (create_eq himage).2⟩
  · obtain ⟨_, _, hsides, himage⟩ := runs_bind.1 h
    obtain ⟨rfl, rfl⟩ := runs_pure.1 hsides
    exact ⟨isPlain_created hname himage, (create_eq himage).2⟩

theorem declare_runs {selector property value : String} {r : Unit}
    (h : Runs (Rendering.declare selector property value) s r t) :
    t = { s with rules := { s.rules with
      blocks := Css.updateAll Css.setBlock [⟨selector, property, value⟩] s.rules.blocks } } := by
  obtain rfl := runs_modify.1 h
  rw [← Css.set_eq_updateAll s.rules ⟨selector, property, value⟩]

theorem classAttribute_runs {names : Css.ClassNames} {text own : String}
    (hnames : names.classAttribute s.classPrefix = .ok text)
    (h : Runs (Rendering.classAttribute names) s own t) : own = text ∧ s = t := by
  have hrest := runs_get_bind.1 h
  rw [hnames] at hrest
  obtain ⟨rfl, rfl⟩ := runs_pure.1 hrest
  exact ⟨rfl, rfl⟩

theorem classAttribute_pair (p a b : String) :
    (Css.ClassNames.many [.name a, .name b]).classAttribute p = .ok (p ++ a ++ " " ++ (p ++ b)) := rfl

/-- the class attribute of an element with an ordinary name beside one with a number -/
theorem carries_beside {a : String} {n : Nat} (ha : Ordinary s.classPrefix a)
    (hclass : e.attribute? "class" = some (s.classPrefix ++ a ++ " " ++ (s.classPrefix ++ viewportClass n))) (k : Nat) :
    e.Carries (s.classPrefix ++ viewportClass k) ↔ k = n := by
  rw [Markup.carries_pair hclass ha.word (viewportClass_isWord n) (viewportClass_isWord k) (viewportClass_ne_empty n)
    (viewportClass_ne_empty k) ha.empty, or_iff_right (ha.other k).symm, viewportClass_injective.eq_iff]

/-- **A clipped image** takes the next number, and declares the rules of its box and of its picture. -/
theorem clippedImage_runs (hname : Ordinary s.classPrefix call.name) (hbox : Ordinary s.classPrefix call.boxName)
    (h : Runs (clippedImage url size call.style) s e t) :
    ∃ view picture, Media.cover (.int size.width) (.int size.height) call.box.width call.box.height = .ok view ∧
      IsClip s.classPrefix (s.clipped + 1) e picture ∧
      t = s.clip ⟨s.clipped + 1, call.box, view⟩ := by
  obtain ⟨own, t₁, hown, hrest⟩ := runs_bind.1 h
  obtain ⟨holder, t₂, hholder, hrest⟩ := runs_bind.1 hrest
  obtain ⟨ownClass, t₃, hclass, hrest⟩ := runs_bind.1 hrest
  obtain ⟨_, t₄, hwidth, hrest⟩ := runs_bind.1 hrest
  obtain ⟨_, t₅, hheight, hrest⟩ := runs_bind.1 hrest
  obtain ⟨_, t₆, hoverflow, hrest⟩ := runs_bind.1 hrest
  obtain ⟨view, hcover, hrest⟩ := runs_liftM_bind.1 hrest
  obtain ⟨_, t₇, hmove, hrest⟩ := runs_bind.1 hrest
  obtain ⟨picture, hpicture, rfl⟩ := runs_map.1 hrest
  obtain ⟨rfl, rfl⟩ := uniqueClass_runs hown
  obtain ⟨hholderTag, -, hholderChildren⟩ := create_new hholder
  obtain ⟨hpictureTag, -, hpictureChildren⟩ := create_new hpicture
  have hholderClass := created_class rfl (classAttribute_pair _ _ _) (List.nodup_singleton _) hholder
  have hpictureClass := created_class rfl (classAttribute_pair _ _ _) mediaAttributes_nodup hpicture
  obtain rfl := (create_eq hholder).2
  obtain ⟨rfl, rfl⟩ := classAttribute_runs (Css.ClassNames.classAttribute.eq_1 ..) hclass
  obtain rfl := declare_runs hwidth
  obtain rfl := declare_runs hheight
  obtain rfl := declare_runs hoverflow
  obtain rfl := declare_runs hmove
  obtain rfl := (create_eq hpicture).2
  refine ⟨view, picture, hcover, ⟨hholderTag, ?_, ?_, hpictureTag, hpictureChildren, ?_⟩, rfl⟩
  · rw [Element.append, hholderChildren, List.nil_append]
  · exact carries_beside hbox hholderClass
  · exact carries_beside hname hpictureClass

/-- **A call that does not clip** leaves prefix, rules and numbers as they are. -/
theorem build_plain {b : Built} (hplain : call.isClipped = false) (hname : Ordinary s.classPrefix call.name)
    (h : Runs call.build s b t) :
    ∃ e, IsPlain s.classPrefix e ∧ Captioned e call.picture.caption b ∧ t.sheet = s.sheet := by
  obtain ⟨size, u, hsize, hrest⟩ := runs_bind.1 h
  have hsheet : u.sheet = s.sheet := Rendering.dimensions_keeps (fun _ _ _ => rfl) _ _ _ _ _ _ hsize
  obtain ⟨hclassPrefix, -, -⟩ := of_sheet hsheet
  split at hrest
  · rename_i hviewport
    simp [ImageCall.isClipped, show call.sizing = .viewport from hviewport] at hplain
  · obtain ⟨e, v, himage, hfigure⟩ := runs_bind.1 hrest
    obtain ⟨hplain, rfl⟩ := plainImage_runs (hclassPrefix ▸ hname) himage
    have hkept : t.sheet = u.sheet := figure_keeps (fun _ _ => rfl) _ _ _ _ _ hfigure
    exact ⟨e, hclassPrefix ▸ hplain, figure_captioned hfigure, hkept.trans hsheet⟩

/-- **A call that clips** takes the next number, and declares the rules of its own box and picture. -/
theorem build_clipped {b : Built} (hclipped : call.isClipped = true) (hname : Ordinary s.classPrefix call.name)
    (hbox : Ordinary s.classPrefix call.boxName) (h : Runs call.build s b t) :
    ∃ holder picture view, IsClip s.classPrefix (s.clipped + 1) holder picture ∧ Covers call view ∧
      Captioned holder call.picture.caption b ∧ t.sheet = (s.clip ⟨s.clipped + 1, call.box, view⟩).sheet := by
  obtain ⟨size, u, hsize, hrest⟩ := runs_bind.1 h
  obtain ⟨found, hfound, rfl⟩ := dimensions_runs hsize
  have hsheet : u.sheet = s.sheet := Rendering.dimensions_keeps (fun _ _ _ => rfl) _ _ _ _ _ _ hsize
  obtain ⟨hclassPrefix, -, hcount⟩ := of_sheet hsheet
  split at hrest
  · obtain ⟨holder, _, himage, hfigure⟩ := runs_bind.1 hrest
    obtain ⟨view, picture, hcover, hclip, rfl⟩ := clippedImage_runs (hclassPrefix ▸ hname) (hclassPrefix ▸ hbox) himage
    rw [hclassPrefix, hcount] at hclip
    have hkept : t.sheet = (u.clip ⟨u.clipped + 1, call.box, view⟩).sheet :=
      figure_keeps (fun _ _ => rfl) _ _ _ _ _ hfigure
    rw [clip_sheet hsheet, hcount] at hkept
    exact ⟨holder, picture, view, hclip, ⟨found, hfound, hcover⟩, figure_captioned hfigure, hkept⟩
  · rename_i hother
    exact absurd (of_decide_eq_true hclipped) hother

end Pictures

/-! ## Calls one after the other -/

/-- **Calls one after the other** leave the rules of the images that they clip, declared in turn. -/
theorem builds_shown {calls : List ImageCall} {bs : List Built}
    (hnames : ∀ call ∈ calls, Ordinary s.classPrefix call.name ∧ Ordinary s.classPrefix call.boxName)
    (h : Runs (calls.mapM ImageCall.build) s bs t) :
    ∃ clips, Shown s.classPrefix s.clipped calls bs clips ∧
      t.rules.blocks =
        Css.updateAll Css.setBlock (clips.flatMap (Clip.declarations s.classPrefix)) s.rules.blocks := by
  induction calls generalizing s bs with
  | nil =>
    obtain ⟨rfl, rfl⟩ := runs_pure.1 h
    exact ⟨[], .nil, rfl⟩
  | cons call calls ih =>
    rw [List.mapM_cons] at h
    obtain ⟨b, u, hb, hrest⟩ := runs_bind.1 h
    obtain ⟨bs, hbs, rfl⟩ := runs_map.1 hrest
    obtain ⟨⟨hname, hbox⟩, hothers⟩ := List.forall_mem_cons.1 hnames
    cases hclipped : call.isClipped with
    | false =>
      obtain ⟨e, hplain, hcaptioned, hsheet⟩ := build_plain hclipped hname hb
      obtain ⟨hclassPrefix, hrules, hcount⟩ := of_sheet hsheet
      obtain ⟨clips, hshown, hblocks⟩ := ih (hclassPrefix ▸ hothers) hbs
      rw [hclassPrefix, hcount] at hshown
      rw [hclassPrefix, hrules] at hblocks
      exact ⟨clips, .plain hclipped hplain hcaptioned hshown, hblocks⟩
    | true =>
      obtain ⟨holder, picture, view, hclip, hcovers, hcaptioned, hsheet⟩ := build_clipped hclipped hname hbox hb
      obtain ⟨hclassPrefix, hrules, hcount⟩ := of_sheet hsheet
      obtain ⟨clips, hshown, hblocks⟩ := ih (hclassPrefix ▸ hothers) hbs
      rw [hclassPrefix, hcount, clip_clipped] at hshown
      rw [hclassPrefix, hrules] at hblocks
      refine ⟨_, .clipped hclipped hclip hcovers hcaptioned hshown, hblocks.trans ?_⟩
      -- the rules of this call are there when the others are declared
      rw [List.flatMap_cons, Css.updateAll, Css.updateAll, List.foldl_append]
      rfl

/-- **Clipped images share no rules.** On a page without rules and numbers, calls that all come to a result give the
clipped images the numbers from one on. Each has in its box and in its picture the class with its number, which no other
image has; and the rules are those of the clipped images alone, under the selectors of each exactly its own. -/
theorem builds_apart {calls : List ImageCall} {bs : List Built} (hrules : s.rules.blocks = [])
    (hcounts : s.classCounts = [])
    (hnames : ∀ call ∈ calls, Ordinary s.classPrefix call.name ∧ Ordinary s.classPrefix call.boxName)
    (h : Runs (calls.mapM ImageCall.build) s bs t) :
    ∃ clips, Shown s.classPrefix 0 calls bs clips ∧
      clips.map Clip.number = List.range' 1 clips.length ∧
      clips.map Clip.box = (calls.filter ImageCall.isClipped).map ImageCall.box ∧
      t.rules.blocks = clips.flatMap (Clip.blocks s.classPrefix) ∧
      ∀ a ∈ clips, t.rules.under (a.boxSelector s.classPrefix) = a.boxRules ∧
        t.rules.under (a.pictureSelector s.classPrefix) = a.pictureRules := by
  obtain ⟨clips, hshown, hblocks⟩ := builds_shown hnames h
  rw [State.clipped, hcounts] at hshown
  rw [hrules] at hblocks
  have hnodup : (clips.map Clip.number).Nodup := by
    rw [hshown.numbers]
    exact List.nodup_range'
  have hblocks' := hblocks.trans (Clip.blocks_flatMap hnodup)
  exact ⟨clips, hshown, hshown.numbers, hshown.boxes, hblocks', fun a ha => Clip.under_blocks hnodup hblocks' ha⟩

/-- three calls for a picture that has a size; the second does not clip, and the third has a caption -/
def threeCalls : List ImageCall :=
  let setting := measured ⟨640, 480⟩
  [⟨setting, ⟨"a", none⟩, .viewport, "image", ⟨.int 100, .int 100⟩, "viewport-box"⟩,
    ⟨setting, ⟨"a", none⟩, .scaled, "image", Box.usual, "viewport-box"⟩,
    ⟨setting, ⟨"a", some default⟩, .viewport, "image", ⟨.int 320, .int 100⟩, "viewport-box"⟩]

/-- the rules that they leave -/
def threeRules : String :=
  "div.x-viewport-1 \x7bwidth: 100px;height: 100px;overflow: hidden;\x7d" ++
    "amp-img.x-viewport-1 \x7btransform: translate(-16px, 0px);\x7d" ++
    "div.x-viewport-2 \x7bwidth: 320px;height: 100px;overflow: hidden;\x7d" ++
    "amp-img.x-viewport-2 \x7btransform: translate(0px, -70px);\x7d"

theorem builds_apart_three : ∃ bs t, Runs (threeCalls.mapM ImageCall.build) (State.start "x-" .empty) bs t ∧
    t.rules.build false = threeRules ∧
    ∃ clips, Shown "x-" 0 threeCalls bs clips ∧ clips.map Clip.number = [1, 2] ∧
      ∀ a ∈ clips, t.rules.under (a.boxSelector "x-") = a.boxRules ∧
        t.rules.under (a.pictureSelector "x-") = a.pictureRules := by
  have hname : Ordinary "x-" "image" := ordinary_of_last (by decide) rfl (by decide)
  have hbox : Ordinary "x-" "viewport-box" := ordinary_of_last (by decide) rfl (by decide)
  have hnames : ∀ call ∈ threeCalls, Ordinary "x-" call.name ∧ Ordinary "x-" call.boxName := by
    simp only [threeCalls, List.forall_mem_cons]
    exact ⟨⟨hname, hbox⟩, ⟨hname, hbox⟩, ⟨hname, hbox⟩, List.forall_mem_nil _⟩
  have hcss : (((threeCalls.mapM ImageCall.build).run.run (State.start "x-" .empty)).1.toOption.map fun _ =>
      ((threeCalls.mapM ImageCall.build).run.run (State.start "x-" .empty)).2.rules.build false) =
    some threeRules := by
    decide +kernel
  rcases hrun : (threeCalls.mapM ImageCall.build).run.run (State.start "x-" .empty) with ⟨_ | bs, t⟩
  · rw [hrun] at hcss
    cases hcss
  · rw [hrun] at hcss
    obtain ⟨clips, hshown, hnumbers, hboxes, -, hrules⟩ := builds_apart rfl rfl hnames hrun
    have hlength : clips.length = 2 := by simpa [threeCalls, ImageCall.isClipped] using congrArg List.length hboxes
    rw [hlength] at hnumbers
    exact ⟨bs, t, hrun, Option.some.inj hcss, clips, hshown, hnumbers, hrules⟩

end AmpArticle.Page
