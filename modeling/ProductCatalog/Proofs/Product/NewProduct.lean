import ProductCatalog.Product.NewProduct
import ProductCatalog.Proofs.Decimal.Rounding
import ProductCatalog.Proofs.Outcome

/-! What can be read from JSON. There is no numeral for a value that is no number, so the prices and
ratings of products that are read are numbers, be they given or left out. -/

namespace ProductCatalog

namespace Json

open Decimal (isUndefined isFinite)

theorem scaleByPower_defined {significand : Nat} {power : Int} {value : Float}
    (scaled : scaleByPower? significand power = some value) : isUndefined value = false := by
  have startDefined := Decimal.isUndefined_ofScientific significand false 0
  have quotient {x : Float} (defined : isUndefined x = false) {count : Nat}
      (bound : count ≤ maxPower) : isUndefined (x / powerOfTen count) = false := by
    obtain ⟨nonzero, finite⟩ := Decimal.powerOfTen_finite bound
    exact Decimal.isUndefined_div defined nonzero finite
  have zeroDefined : isUndefined 0.0 = false := Decimal.isUndefined_ofScientific 0 true 1
  unfold scaleByPower? at scaled
  dsimp only at scaled
  split at scaled
  · cases scaled
    exact zeroDefined
  split at scaled
  · split at scaled
    · cases scaled
    · obtain ⟨_, finite⟩ := Option.filter_eq_some_iff.mp scaled
      exact Decimal.isUndefined_of_isFinite finite
  split at scaled
  · cases scaled
    exact quotient startDefined (by omega)
  split at scaled
  · cases scaled
    exact quotient (quotient startDefined (Nat.le_refl maxPower)) (by omega)
  · cases scaled
    exact zeroDefined

theorem Numeral.quantity_defined {numeral : Numeral} {quantity : Quantity}
    (read : numeral.quantity = .ok quantity) : isUndefined quantity.toFloat = false := by
  unfold Numeral.quantity at read
  dsimp only at read
  split at read
  · cases read
    exact Decimal.isUndefined_negateIf (Decimal.isUndefined_ofScientific _ false 0) _
  · split at read
    · rename_i value scaled
      cases read
      exact Decimal.isUndefined_negateIf (scaleByPower_defined scaled) _
    · cases read

namespace Node

theorem toNumber_defined {node : Node} {value : Float} (read : node.toNumber = .ok value) :
    isUndefined value = false := by
  unfold toNumber at read
  split at read
  · obtain ⟨quantity, found, rfl⟩ := map_eq_ok read
    exact Numeral.quantity_defined found
  · cases read

theorem foldMembers_keeps {σ : Type} {take : String → σ → Node → Except Fault σ} {kept : σ → Prop}
    (each : ∀ key state node after, kept state → take key state node = .ok after → kept after)
    {members : List (List TextPart × Node)} {state after : σ} (start : kept state)
    (folded : foldMembers take state members = .ok after) : kept after := by
  induction members generalizing state with
  | nil =>
      cases folded
      exact start
  | cons member rest ih =>
      obtain ⟨key, _, taken⟩ := bind_eq_ok folded
      obtain ⟨between, took, others⟩ := bind_eq_ok taken
      exact ih (each key state member.2 between start took) others

theorem item_eq_ok {α : Type} {items : List Node} {ending : Option Break} {position : Nat}
    {read : Node → Except Fault α} {missing : Except Fault α} {value : α}
    (done : item items ending position read missing = .ok value) :
    (∃ node, read node = .ok value) ∨ missing = .ok value := by
  unfold item at done
  split at done
  · exact Or.inl ⟨_, done⟩
  · cases done
  · exact Or.inr done

end Node

end Json

/-- The price and the rating of a product are numbers. -/
structure NewProduct.Defined (product : NewProduct) : Prop where
  price : Decimal.isUndefined product.price = false
  rating : Decimal.isUndefined product.rating = false

namespace NewProduct

theorem defaultRating_defined : Decimal.isUndefined defaultRating = false :=
  Decimal.isUndefined_ofScientific 45 true 1

structure Given.Defined (given : Given) : Prop where
  price : ∀ price, given.price = some price → Decimal.isUndefined price = false
  rating : ∀ rating, given.rating = some rating → Decimal.isUndefined rating = false

theorem once_eq_ok {σ α : Type} {name : String} {current : Option α}
    {read : Json.Node → Except Json.Fault α} {store : α → σ} {node : Json.Node} {after : σ}
    (done : Json.Node.once name current read store node = .ok after) :
    ∃ value, read node = .ok value ∧ store value = after := by
  unfold Json.Node.once at done
  split at done
  · cases done
  · exact map_eq_ok done

theorem Given.Defined.take {key : String} {given after : Given} (defined : given.Defined)
    {node : Json.Node} (taken : given.take key node = .ok after) : after.Defined := by
  have passed (taken : node.pass.map (fun _ => given) = .ok after) : after.Defined := by
    obtain ⟨_, _, rfl⟩ := map_eq_ok taken
    exact defined
  unfold Given.take at taken
  cases labelled : Field.ofLabel? key with
  | none =>
      rw [labelled] at taken
      exact passed taken
  | some field =>
      rw [labelled] at taken
      cases field with
      | id => exact passed taken
      | price =>
          obtain ⟨value, read, rfl⟩ := once_eq_ok taken
          refine ⟨?_, defined.rating⟩
          rintro price ⟨⟩
          exact Json.Node.toNumber_defined read
      | rating =>
          obtain ⟨value, read, rfl⟩ := once_eq_ok taken
          refine ⟨defined.price, ?_⟩
          rintro rating ⟨⟩
          exact Json.Node.toNumber_defined read
      | name | company | featured | createdAt =>
          obtain ⟨value, _, rfl⟩ := once_eq_ok taken
          exact ⟨defined.price, defined.rating⟩

theorem required_eq_ok {α : Type} {name : String} {value : Option α} {found : α}
    (done : required name value = .ok found) : value = some found := by
  cases value with
  | none => cases done
  | some given => rw [Except.ok.inj done]

theorem Given.Defined.complete {given : Given} (defined : given.Defined) {product : NewProduct}
    (completed : given.complete = .ok product) : product.Defined := by
  obtain ⟨name, _, named⟩ := bind_eq_ok completed
  obtain ⟨price, priced, rest⟩ := bind_eq_ok named
  obtain ⟨company, _, made⟩ := bind_eq_ok rest
  cases made
  refine ⟨defined.price price (required_eq_ok priced), ?_⟩
  cases rated : given.rating with
  | none => exact defaultRating_defined
  | some rating => exact defined.rating rating rated

/-- A product that is read has a price and a rating that are numbers. -/
theorem ofNode_defined {node : Json.Node} {product : NewProduct}
    (read : ofNode node = .ok product) : product.Defined := by
  unfold ofNode at read
  split at read
  · obtain ⟨given, folded, rest⟩ := bind_eq_ok read
    obtain ⟨_, _, completed⟩ := bind_eq_ok rest
    have nothing : Given.Defined {} := ⟨by rintro price ⟨⟩, by rintro rating ⟨⟩⟩
    have defined := Json.Node.foldMembers_keeps
      (fun key state node after (kept : state.Defined) taken => kept.take taken) nothing folded
    exact defined.complete completed
  · obtain ⟨name, _, named⟩ := bind_eq_ok read
    obtain ⟨price, priced, rest⟩ := bind_eq_ok named
    obtain ⟨rating, rated, rest⟩ := bind_eq_ok rest
    obtain ⟨company, _, rest⟩ := bind_eq_ok rest
    obtain ⟨featured, _, rest⟩ := bind_eq_ok rest
    obtain ⟨createdAt, _, rest⟩ := bind_eq_ok rest
    obtain ⟨_, _, made⟩ := bind_eq_ok rest
    cases made
    constructor
    · rcases Json.Node.item_eq_ok priced with ⟨node, found⟩ | ⟨⟨⟩⟩
      exact Json.Node.toNumber_defined found
    · rcases Json.Node.item_eq_ok rated with ⟨node, found⟩ | ⟨⟨⟩⟩
      · exact Json.Node.toNumber_defined found
      · exact defaultRating_defined
  · cases read

end NewProduct

end ProductCatalog
