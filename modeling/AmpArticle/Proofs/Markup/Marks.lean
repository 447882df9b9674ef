import AmpArticle.Markup.Fragment
import AmpArticle.Markup.Name
import AmpArticle.Proofs.Results

/-!
Trees without dividers, and trees without any marks. A divider is known by its mark, and marks are set only where a page
is put together: nothing that is read from markup bears one.

Results:
- `document_unmarked`: a document read from any markup has no mark in it;
- `fragments_unmarked`, `appendMarkup_unmarked`: nor have the pieces of markup, and an element keeps without marks when
  markup is added to it;
- `mapMarkedAll_unmarked`: what is done at marks does nothing to a tree without them;
- `pieceCount_eq_one_iff`: markup of a single piece is one node and the text behind it.
-/

namespace AmpArticle.Markup

/-! ## Free trees -/

/-- whether a mark makes an element a divider -/
def Mark.isDivider : Option Mark → Bool
  | some (.divider _) => true
  | _ => false

namespace Node

mutual
/-- whether no element of a tree is a divider -/
def isFree : Node → Bool
  | .text _ => true
  | .comment _ => true
  | .element _ mark _ children => !Mark.isDivider mark && areFree children

/-- `isFree` of all nodes -/
def areFree : List Node → Bool
  | [] => true
  | n :: rest => n.isFree && areFree rest
end

theorem areFree_iff (ns : List Node) : areFree ns = true ↔ ∀ n ∈ ns, n.isFree = true := by
  induction ns with
  | nil => simp [areFree]
  | cons n ns ih => simp [areFree, ih]

theorem areFree_append (ns ms : List Node) : areFree (ns ++ ms) = (areFree ns && areFree ms) := by
  induction ns with
  | nil => simp [areFree]
  | cons n ns ih => simp [areFree, ih, Bool.and_assoc]

theorem areFree_of_subset {ns ms : List Node} (h : ns ⊆ ms) (hm : areFree ms = true) : areFree ns = true :=
  (areFree_iff ns).2 fun n hn => (areFree_iff ms).1 hm n (h hn)

theorem areFree_dropText {ns : List Node} (h : areFree ns = true) : areFree (dropText ns) = true :=
  areFree_of_subset (List.dropWhile_sublist _).subset h

end Node

/-- whether no element of an element's tree is a divider -/
def Element.isFree (e : Element) : Bool := e.toNode.isFree

namespace Element

theorem isFree_eq (e : Element) : e.isFree = (!Mark.isDivider e.mark && Node.areFree e.children) := by
  cases e; simp [isFree, toNode, Node.isFree]

theorem bare_free (tag : String) : (bare tag).isFree = true := by
  simp [isFree_eq, bare, Mark.isDivider, Node.areFree]

theorem put_free (e : Element) (name value : String) : (e.put name value).isFree = e.isFree := by
  simp [isFree_eq, put]

theorem append_free {e : Element} {ns : List Node} (he : e.isFree = true) (hn : Node.areFree ns = true) :
    (e.append ns).isFree = true := by
  rw [isFree_eq, Bool.and_eq_true] at he
  rw [isFree_eq, append, Node.areFree_append, he.2, hn, he.1]
  rfl

theorem set_eq_put {e f : Element} {name value : String} (h : e.set name value = .ok f) : f = e.put name value := by
  obtain ⟨_, -, h⟩ := bind_ok_iff.1 h
  simp only at h
  split at h
  · obtain ⟨_, hthrow, -⟩ := bind_ok_iff.1 h
    cases hthrow
  · split at h
    · obtain ⟨_, hthrow, -⟩ := bind_ok_iff.1 h
      cases hthrow
    · obtain ⟨_, -, h⟩ := bind_ok_iff.1 h
      exact (pure_ok_iff.1 h).symm

theorem create_eq_bare {tag : String} {e : Element} (h : create tag = .ok e) : e = bare tag := by
  obtain ⟨_, -, h⟩ := bind_ok_iff.1 h
  exact (pure_ok_iff.1 h).symm

theorem setText_free {e f : Element} {s : String} (he : e.isFree = true) (h : e.setText s = .ok f) :
    f.isFree = true := by
  obtain ⟨_, -, h⟩ := bind_ok_iff.1 h
  obtain rfl := pure_ok_iff.1 h
  rw [isFree_eq, Bool.and_eq_true] at he
  have hdropped := Node.areFree_dropText he.2
  rw [isFree_eq, Node.areFree_append, he.1, hdropped]
  split <;> simp [Node.areFree, Node.isFree]

end Element

/-! ## Trees without marks -/

namespace Node

mutual
/-- whether no element of a tree bears a mark -/
def isUnmarked : Node → Bool
  | .text _ => true
  | .comment _ => true
  | .element _ mark _ children => mark.isNone && areUnmarked children

/-- `isUnmarked` of all nodes -/
def areUnmarked : List Node → Bool
  | [] => true
  | n :: rest => n.isUnmarked && areUnmarked rest
end

theorem areUnmarked_iff (ns : List Node) : areUnmarked ns = true ↔ ∀ n ∈ ns, n.isUnmarked = true := by
  induction ns with
  | nil => simp [areUnmarked]
  | cons n ns ih => simp [areUnmarked, ih]

theorem areUnmarked_append (ns ms : List Node) : areUnmarked (ns ++ ms) = (areUnmarked ns && areUnmarked ms) := by
  induction ns with
  | nil => simp [areUnmarked]
  | cons n ns ih => simp [areUnmarked, ih, Bool.and_assoc]

theorem areUnmarked_reverse (ns : List Node) : areUnmarked ns.reverse = areUnmarked ns := by
  rw [Bool.eq_iff_iff, areUnmarked_iff, areUnmarked_iff]
  simp

theorem areUnmarked_dropText {ns : List Node} (h : areUnmarked ns = true) : areUnmarked (dropText ns) = true :=
  (areUnmarked_iff _).2 fun n hn => (areUnmarked_iff ns).1 h n ((List.dropWhile_sublist _).subset hn)

mutual
theorem isFree_of_unmarked : ∀ {n : Node}, n.isUnmarked = true → n.isFree = true
  | .text _, _ => rfl
  | .comment _, _ => rfl
  | .element tag mark attributes children, h => by
    simp only [isUnmarked, Bool.and_eq_true, Option.isNone_iff_eq_none] at h
    simp [isFree, h.1, Mark.isDivider, areFree_of_unmarked h.2]

theorem areFree_of_unmarked : ∀ {ns : List Node}, areUnmarked ns = true → areFree ns = true
  | [], _ => rfl
  | n :: rest, h => by
    simp only [areUnmarked, Bool.and_eq_true] at h
    simp [areFree, isFree_of_unmarked h.1, areFree_of_unmarked h.2]
end

mutual
theorem mapMarked_unmarked (mark : Mark) (f : Element → Element) :
    ∀ {n : Node}, n.isUnmarked = true → n.mapMarked mark f = n
  | .text _, _ => by simp [mapMarked]
  | .comment _, _ => by simp [mapMarked]
  | .element tag m attributes children, h => by
    simp only [isUnmarked, Bool.and_eq_true, Option.isNone_iff_eq_none] at h
    simp [mapMarked, h.1, mapMarkedAll_unmarked mark f h.2]

theorem mapMarkedAll_unmarked (mark : Mark) (f : Element → Element) :
    ∀ {ns : List Node}, areUnmarked ns = true → mapMarkedAll mark f ns = ns
  | [], _ => by simp [mapMarkedAll]
  | n :: rest, h => by
    simp only [areUnmarked, Bool.and_eq_true] at h
    simp [mapMarkedAll, mapMarked_unmarked mark f h.1, mapMarkedAll_unmarked mark f h.2]
end

end Node

/-- whether no element of an element's tree bears a mark -/
def Element.isUnmarked (e : Element) : Bool := e.toNode.isUnmarked

namespace Element

theorem isUnmarked_eq (e : Element) : e.isUnmarked = (e.mark.isNone && Node.areUnmarked e.children) := by
  cases e; simp [isUnmarked, toNode, Node.isUnmarked]

theorem isFree_of_unmarked {e : Element} (h : e.isUnmarked = true) : e.isFree = true := Node.isFree_of_unmarked h

theorem bare_unmarked (tag : String) : (bare tag).isUnmarked = true := rfl

theorem put_unmarked (e : Element) (name value : String) : (e.put name value).isUnmarked = e.isUnmarked := by
  simp [isUnmarked_eq, put]

theorem append_unmarked {e : Element} {ns : List Node} (he : e.isUnmarked = true) (hn : Node.areUnmarked ns = true) :
    (e.append ns).isUnmarked = true := by
  rw [isUnmarked_eq, Bool.and_eq_true] at he
  rw [isUnmarked_eq, append, Node.areUnmarked_append, he.2, hn, he.1]
  rfl

theorem setAll_unmarked (e : Element) (attributes : List (String × String)) :
    (e.setAll attributes).1.isUnmarked = e.isUnmarked := by
  induction attributes generalizing e with
  | nil => rfl
  | cons a rest ih =>
    obtain ⟨name, value⟩ := a
    simp only [setAll]
    split
    · rename_i f hf
      rw [ih, set_eq_put hf, put_unmarked]
    · rfl

end Element

/-! ## What is read from markup -/

namespace Builder

/-- no open element has a mark below it -/
structure Unmarked (b : Builder) : Prop where
  root : ∀ f, b.root = some f → Node.areUnmarked f.below = true
  inside : ∀ f ∈ b.inside, Node.areUnmarked f.below = true

theorem empty_unmarked : Unmarked empty := ⟨by simp [empty], by simp [empty]⟩

theorem add_unmarked {b : Builder} {n : Node} (h : Unmarked b) (hn : n.isUnmarked = true) : Unmarked (b.add n) := by
  unfold add
  split
  · rename_i f rest hf
    refine ⟨h.root, fun g hg => ?_⟩
    rcases List.mem_cons.1 hg with rfl | hg
    · simp only [Node.areUnmarked, hn, Bool.true_and]
      exact h.inside f (by rw [hf]; exact List.mem_cons_self)
    · exact h.inside g (by rw [hf]; exact List.mem_cons_of_mem _ hg)
  · refine ⟨fun g hg => ?_, h.inside⟩
    obtain ⟨f, hf, rfl⟩ := Option.map_eq_some_iff.1 hg
    simp only [Node.areUnmarked, hn, Bool.true_and]
    exact h.root f hf

theorem push_unmarked {b : Builder} (tag : String) (attributes : List Attribute) (h : Unmarked b) :
    Unmarked (b.push tag attributes) := by
  simp only [push]
  split
  · refine ⟨fun f hf => ?_, h.inside⟩
    simp only [Option.some.injEq] at hf
    subst hf; rfl
  · refine ⟨h.root, fun f hf => ?_⟩
    rcases List.mem_cons.1 hf with rfl | hf
    · rfl
    · exact h.inside f hf

theorem pop_unmarked {b : Builder} (h : Unmarked b) : Unmarked b.pop := by
  unfold pop
  split
  · rename_i f rest hf
    have hrest : Unmarked { b with inside := rest } :=
      ⟨h.root, fun g hg => h.inside g (by rw [hf]; exact List.mem_cons_of_mem _ hg)⟩
    refine add_unmarked hrest ?_
    have hbelow := h.inside f (by rw [hf]; exact List.mem_cons_self)
    simp [Node.isUnmarked, Node.areUnmarked_reverse, hbelow]
  · exact ⟨h.root, h.inside⟩

theorem closeFor_unmarked (tag : String) (fuel : Nat) {b : Builder} (h : Unmarked b) : Unmarked (closeFor tag fuel b) := by
  induction fuel generalizing b with
  | zero => exact h
  | succ fuel ih =>
    simp only [closeFor]
    split
    · split
      · exact ih (pop_unmarked h)
      · exact h
    · exact h

theorem imply_unmarked {b : Builder} (tag : String) (h : Unmarked b) : Unmarked (b.imply tag) := by
  have hroot : Unmarked (if b.openTags.isEmpty then b.push "html" [] else b) := by
    split
    · exact push_unmarked _ _ h
    · exact h
  simp only [imply]
  -- the builder with its root is one value in the branches
  generalize (if b.openTags.isEmpty then b.push "html" [] else b) = rooted at hroot ⊢
  repeat' split
  all_goals first
    | exact h
    | exact hroot
    | exact push_unmarked _ _ hroot

theorem startTag_unmarked {b : Builder} (tag : String) (attributes : List Attribute) (h : Unmarked b) :
    Unmarked (b.startTag tag attributes) := by
  have hb : Unmarked ((b.autoClose tag).imply tag) := imply_unmarked tag (closeFor_unmarked tag _ h)
  simp only [startTag]
  generalize (b.autoClose tag).imply tag = implied at hb ⊢
  generalize (if tag = "html" then (if implied.openTags.isEmpty then 0 else 1)
    else if tag = "head" then (if implied.openTags.length = 1 then 0 else 1)
    else if tag = "body" then implied.openTags.count "body" else 0) = dropped
  split
  · exact ⟨hb.root, hb.inside⟩
  · split
    · exact pop_unmarked (push_unmarked _ _ hb)
    · exact push_unmarked _ _ hb

theorem closeThrough_unmarked (tag : String) (fuel : Nat) {b : Builder} (h : Unmarked b) : Unmarked (closeThrough tag fuel b) := by
  induction fuel generalizing b with
  | zero => exact h
  | succ fuel ih =>
    simp only [closeThrough]
    split
    · split
      · exact pop_unmarked h
      · exact ih (pop_unmarked h)
    · exact h

theorem endTag_unmarked {b : Builder} (tag : String) (h : Unmarked b) : Unmarked (b.endTag tag) := by
  unfold endTag
  split
  · exact ⟨h.root, h.inside⟩
  · split
    · exact closeThrough_unmarked tag _ h
    · exact h

theorem addText_unmarked {b : Builder} (content : String) (h : Unmarked b) : Unmarked (b.addText content) := by
  have hfront (s : String) (p : Bool) : Unmarked (if p then b else b.add (.text s)) := by
    split
    · exact h
    · exact add_unmarked h rfl
  have hparagraph {b : Builder} (s : String) (hb : Unmarked b) : Unmarked (((b.autoClose "p").imply "p").add (.text s)) :=
    add_unmarked (imply_unmarked "p" (closeFor_unmarked "p" _ hb)) rfl
  simp only [addText]
  refine iteInduction (fun _ => ?_) (fun _ => add_unmarked h rfl)
  refine iteInduction (fun _ => ?_) (fun _ => hparagraph _ ?_)
  · exact hfront _ _
  · exact hfront _ _

theorem step_unmarked {b : Builder} (t : Token) (h : Unmarked b) : Unmarked (b.step t) := by
  cases t with
  | start tag attributes => exact startTag_unmarked tag attributes h
  | stop tag => exact endTag_unmarked tag h
  | text content => exact addText_unmarked content h
  | comment content =>
    simp only [step]
    split
    · exact h
    · exact add_unmarked h rfl

theorem run_unmarked (ts : List Token) {b : Builder} (h : Unmarked b) : Unmarked (ts.foldl step b) := by
  induction ts generalizing b with
  | nil => exact h
  | cons t ts ih => exact ih (step_unmarked t h)

theorem close_unmarked (fuel : Nat) {b : Builder} (h : Unmarked b) : Unmarked (close fuel b) := by
  induction fuel generalizing b with
  | zero => exact h
  | succ fuel ih =>
    simp only [close]
    split
    · exact h
    · exact ih (pop_unmarked h)

theorem finish_unmarked {b : Builder} {e : Element} (h : Unmarked b) (he : b.finish = some e) : e.isUnmarked = true := by
  simp only [finish] at he
  obtain ⟨f, hf, rfl⟩ := Option.map_eq_some_iff.1 he
  have hbelow := (close_unmarked (b.inside.length + 1) h).root f hf
  simp [Element.isUnmarked_eq, Node.areUnmarked_reverse, hbelow]

end Builder

/-- **Nothing read from markup bears a mark.** -/
theorem document_unmarked {cs : List Char} {e : Element} (h : document? cs = some e) : e.isUnmarked = true :=
  Builder.finish_unmarked (Builder.run_unmarked _ Builder.empty_unmarked) h

theorem bodies_unmarked {root body : Element} (h : root.isUnmarked = true) (hb : body ∈ bodies root) :
    body.isUnmarked = true := by
  obtain ⟨n, hn, hbody⟩ := List.mem_filterMap.1 hb
  rw [Element.isUnmarked_eq, Bool.and_eq_true] at h
  have hunmarked := (Node.areUnmarked_iff _).1 h.2 n hn
  cases n with
  | text content => simp [Node.element?] at hbody
  | comment content => simp [Node.element?] at hbody
  | element tag mark attributes children =>
    simp only [Node.element?, Option.bind_some] at hbody
    split at hbody
    · rw [← Option.some.inj hbody]; exact hunmarked
    · cases hbody

theorem fragments_unmarked {markup : String} {ns : List Node} (h : fragments markup = .ok ns) :
    Node.areUnmarked ns = true := by
  unfold fragments at h
  split at h
  · cases h
  · rename_i root hroot
    split at h
    · rename_i body hbody
      have hunmarked := bodies_unmarked (document_unmarked hroot) (hbody ▸ List.mem_singleton_self body)
      rw [Element.isUnmarked_eq, Bool.and_eq_true] at hunmarked
      rw [← Except.ok.inj h]
      split
      · exact Node.areUnmarked_dropText hunmarked.2
      · exact hunmarked.2
    · cases h

theorem joinNodes_eq {before nodes all : List Node} (h : joinNodes before nodes = .ok all) : all = before ++ nodes := by
  unfold joinNodes at h
  split at h
  · exact (Except.ok.inj h).symm
  · cases h

/-- the nodes that markup brings with it; empty markup brings none -/
def taken (markup : String) : List Node :=
  if markup.isEmpty then [] else (fragments markup).toOption.getD []

theorem taken_eq {markup : String} {nodes : List Node} (hmarkup : markup.isEmpty = false)
    (h : fragments markup = .ok nodes) : taken markup = nodes := by
  simp [taken, hmarkup, h, Except.toOption]

theorem taken_unmarked (markup : String) : Node.areUnmarked (taken markup) = true := by
  unfold taken
  split
  · rfl
  · cases h : fragments markup with
    | error fault => rfl
    | ok nodes => exact fragments_unmarked h

/-- an element with markup at its end has what the markup brings behind its children -/
theorem appendMarkup_eq {e f : Element} {markup : String} (h : e.appendMarkup markup = .ok f) :
    f = e.append (taken markup) := by
  unfold Element.appendMarkup at h
  split at h
  · rename_i hempty
    rw [← pure_ok_iff.1 h]
    simp [Element.append, taken, hempty]
  · rename_i hmarkup
    rw [Bool.not_eq_true] at hmarkup
    obtain ⟨nodes, hnodes, h⟩ := bind_ok_iff.1 h
    obtain ⟨all, hall, h⟩ := bind_ok_iff.1 h
    rw [← pure_ok_iff.1 h, joinNodes_eq hall, taken_eq hmarkup hnodes]
    rfl

/-- the text of markup is that of what the markup brings -/
theorem plainText_eq {markup text : String} (h : plainText markup = .ok text) :
    text = Node.textContents (taken markup) := by
  unfold plainText at h
  split at h
  · rename_i hempty
    rw [← pure_ok_iff.1 h]
    simp [taken, hempty, Node.textContents]
  · rename_i hmarkup
    rw [Bool.not_eq_true] at hmarkup
    obtain ⟨nodes, hnodes, h⟩ := bind_ok_iff.1 h
    obtain ⟨all, hall, h⟩ := bind_ok_iff.1 h
    rw [← pure_ok_iff.1 h, joinNodes_eq hall, taken_eq hmarkup hnodes]
    rfl

theorem appendMarkup_unmarked {e f : Element} {markup : String} (he : e.isUnmarked = true)
    (h : e.appendMarkup markup = .ok f) : f.isUnmarked = true := by
  rw [appendMarkup_eq h]
  exact Element.append_unmarked he (taken_unmarked markup)

theorem appendMarkup_free {e f : Element} {markup : String} (he : e.isFree = true)
    (h : e.appendMarkup markup = .ok f) : f.isFree = true := by
  rw [appendMarkup_eq h]
  exact Element.append_free he (Node.areFree_of_unmarked (taken_unmarked markup))

theorem appendMarkup_tag {e f : Element} {markup : String} (h : e.appendMarkup markup = .ok f) :
    f.tag = e.tag ∧ f.mark = e.mark ∧ f.attributes = e.attributes := by
  rw [appendMarkup_eq h]
  exact ⟨rfl, rfl, rfl⟩

/-- **A single piece of markup is one node and the text behind it.** -/
theorem pieceCount_eq_one_iff {first : Node} {rest : List Node} (hfirst : first.isText = false) :
    pieceCount (first :: rest) = 1 ↔ ∀ n ∈ rest, n.isText = true := by
  simp [pieceCount, hfirst]

end AmpArticle.Markup
