import FormSchema.Proofs.Form.Contents

/-!
# FormSchema — forms without wrappers

Groups and conditionals wrap elements without opening a scope. Erasing them puts their elements in
their place, at every depth and also inside the items of arrays and the properties of objects.
Forms that differ only by wrappers have the same erasure (`eraseAll_eq_of_wraps`).
-/

namespace FormSchema

/-! ## Erasure -/

mutual

/-- The elements that stand in place of an element once all wrappers are gone. -/
def Element.erase : Element → List Element
  | .leaf head kind => [.leaf head kind]
  | .array head bounds items => [.array head bounds (eraseAll items)]
  | .object head properties => [.object head (eraseAll properties)]
  | .group _ elements => eraseAll elements
  | .conditional _ elements => eraseAll elements

/-- `Element.erase` on siblings, each in its place. -/
def eraseAll : List Element → List Element
  | [] => []
  | e :: es => e.erase ++ eraseAll es

end

/-- The form without its wrappers. -/
def Form.erase (form : Form) : Form := ⟨eraseAll form.elements⟩

@[simp] theorem eraseAll_nil : eraseAll [] = [] := rfl

@[simp] theorem eraseAll_cons (e : Element) (es : List Element) :
    eraseAll (e :: es) = e.erase ++ eraseAll es := rfl

@[simp] theorem eraseAll_append (es more : List Element) :
    eraseAll (es ++ more) = eraseAll es ++ eraseAll more := by
  induction es with
  | nil => rfl
  | cons e es ih => rw [List.cons_append, eraseAll_cons, ih, eraseAll_cons, List.append_assoc]

/-! ## Wrapping -/

/-- `Wraps es es'`: `es'` is `es` with some runs of siblings wrapped in groups or conditionals, one
after the other, each at any depth. An empty run may be wrapped, too. -/
inductive Wraps : List Element → List Element → Prop where
  | group (label : String) (run : List Element) : Wraps run [.group label run]
  | conditional (test : Predicate) (run : List Element) : Wraps run [.conditional test run]
  | among (before after : List Element) {es es' : List Element} (h : Wraps es es') :
      Wraps (before ++ es ++ after) (before ++ es' ++ after)
  | inGroup (label : String) {es es' : List Element} (h : Wraps es es') :
      Wraps [.group label es] [.group label es']
  | inConditional (test : Predicate) {es es' : List Element} (h : Wraps es es') :
      Wraps [.conditional test es] [.conditional test es']
  | inItems (head : FieldHead) (bounds : ItemBounds) {es es' : List Element} (h : Wraps es es') :
      Wraps [.array head bounds es] [.array head bounds es']
  | inProperties (head : FieldHead) {es es' : List Element} (h : Wraps es es') :
      Wraps [.object head es] [.object head es']
  | trans {es es' es'' : List Element} (h : Wraps es es') (h' : Wraps es' es'') : Wraps es es''

/-- Wrappers leave no trace in the erasure. Induction on the wrapping. -/
theorem eraseAll_eq_of_wraps {es es' : List Element} (h : Wraps es es') :
    eraseAll es' = eraseAll es := by
  induction h with
  | group label run => simp [Element.erase]
  | conditional test run => simp [Element.erase]
  | among before after _ ih => simp [ih]
  | inGroup label _ ih => simp [Element.erase, ih]
  | inConditional test _ ih => simp [Element.erase, ih]
  | inItems head bounds _ ih => simp [Element.erase, ih]
  | inProperties head _ ih => simp [Element.erase, ih]
  | trans _ _ ih ih' => rw [ih', ih]

end FormSchema
