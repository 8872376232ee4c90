import SvgPage.Numeric.Double
import SvgPage.Proofs.Content.Pieces
import SvgPage.Proofs.Session.Calls
import SvgPage.Proofs.Traversal.Colors
import SvgPage.Proofs.Traversal.Enclosed

namespace SvgPage

/-- A converter of drawings in doubles, for which no file is found. -/
def Double.converter : Converter Float where
  options := ⟨96, 0, .ofNumber (2 : Float), fun _ => none⟩

namespace Converter

/-- The numbers in the operators of a document and in the dictionaries of all resources. -/
def numbers (converter : Converter Float) (operators : List (Operator Float)) : List Float :=
  Piece.values (operators.flatMap Operator.pieces ++ converter.ledger.resources.toList.flatMap Resource.pieces)

/-- All that is rendered of a document that has been converted, and all dictionaries of resources, are made of
    words and of numbers. A number in them is in fixed point if it is finite and less than `10 ^ 21` apart from its
    sign, and only then. -/
theorem fixedPoint_of_convert {converter after : Converter Float} {source : String} {x y pageHeight : Float}
    {size : Size Float} {handle : Nat} (h : converter.convert source x y size pageHeight = (.ok handle, after)) :
    ∃ operators, after.render handle = .ok operators ∧
      Operator.writeAll operators = Piece.write (operators.flatMap Operator.pieces) ∧
      (∀ resource ∈ after.ledger.resources, resource.write = Piece.write resource.pieces) ∧
      ∀ value ∈ after.numbers operators, IsFixedPoint (Fixed.text value) ↔ (Binary.ofFloat value).IsModerate := by
  obtain ⟨markup, tree, ledger, -, hrendered, -⟩ := convert_inv h
  exact ⟨tree.operators, hrendered, (Operator.writeAll_pieces _).symm, fun resource _ => resource.write_pieces.symm,
    fun value _ => Fixed.isFixedPoint_text_iff value⟩

/-- All numbers of a small drawing are in fixed point. -/
theorem fixedPoint_of_square :
    let result := Double.converter.convert
      "<svg width='10' height='20'><rect width='5' height='4' opacity='0.5'/></svg>" 0 0 ⟨0, 0⟩ 100
    ∃ operators, result.2.render 1 = .ok operators ∧ (result.2.numbers operators).length = 23 ∧
      ∀ value ∈ result.2.numbers operators, IsFixedPoint (Fixed.text value) := by
  intro result
  have hresult : result.1.toOption = some 1 ∧ (result.2.render 1).toOption.any (fun operators =>
      (result.2.numbers operators).length = 23 ∧
        ∀ value ∈ result.2.numbers operators, (Binary.ofFloat value).IsModerate) = true := by
    decide +kernel
  obtain ⟨hhandle, hmoderate⟩ := hresult
  obtain ⟨operators, hrendered, -, -, hfixed⟩ := fixedPoint_of_convert (eq_ok hhandle)
  have hrendered : result.2.render 1 = .ok operators := hrendered
  rw [hrendered] at hmoderate
  obtain ⟨hlength, hall⟩ := of_decide_eq_true hmoderate
  exact ⟨operators, hrendered, hlength, fun value hmem => (hfixed value hmem).2 (hall value hmem)⟩

/-- But numbers are not limited, and a large one is written with a power of ten. -/
theorem not_fixedPoint_of_wide :
    let result := Double.converter.convert "<svg width='10' height='20'><rect width='1e30' height='4'/></svg>"
      0 0 ⟨0, 0⟩ 100
    ∃ operators, result.1.toOption = some 1 ∧ result.2.render 1 = .ok operators ∧
      ∃ value ∈ result.2.numbers operators, Fixed.text value = "1e+30" ∧ ¬IsFixedPoint (Fixed.text value) := by
  intro result
  have hresult : result.1.toOption = some 1 ∧ (result.2.render 1).toOption.any (fun operators =>
      ∃ value ∈ result.2.numbers operators, Fixed.text value = "1e+30" ∧
        ¬(Binary.ofFloat value).IsModerate) = true := by
    decide +kernel
  obtain ⟨hhandle, hwide⟩ := hresult
  obtain ⟨markup, tree, ledger, -, hrendered, -⟩ := convert_inv (eq_ok hhandle)
  have hrendered : result.2.render 1 = .ok tree.operators := hrendered
  rw [hrendered] at hwide
  obtain ⟨value, hmem, htext, hlarge⟩ := of_decide_eq_true hwide
  exact ⟨tree.operators, hhandle, hrendered, value, hmem, htext, mt (Fixed.isFixedPoint_text_iff value).1 hlarge⟩

end Converter

open Scalar (IsAlpha)

/-- Whether a text consists of the components of a color of a space: as many numbers in fixed point as the space has
    components, all from zero to one. -/
def ColorSpace.IsOperands (space : ColorSpace) (text : String) : Prop :=
  ∃ components : List String, text = " ".intercalate components ∧ components.length = space.size ∧
    ∀ component ∈ components, Fixed.IsProportion component

theorem DeviceColor.Fits.isOperands {space : ColorSpace} {color : DeviceColor Float} (h : color.Fits space) :
    space.IsOperands color.write := by
  refine ⟨color.components.map Fixed.text, rfl, ?_, List.forall_mem_map.2 fun component hmem => ?_⟩
  · rw [List.length_map, color.length_components, h.space]
  · exact Fixed.isProportion_text (h.inRange component hmem)

/-- The functions between two colors are written one after the other. -/
theorem ShadingFunction.exists_write (function : ShadingFunction Float) : ∃ before behind, function.write = before ++
    " ".intercalate (function.parts.map fun part => writePart part.1 part.2) ++ behind := by
  cases function with
  | interpolation first last =>
    refine ⟨"", "", ?_⟩
    unfold write parts
    simp only [List.map_cons, List.map_nil, String.intercalate_singleton, String.empty_append, String.append_empty]
  | stitching parts bounds =>
    refine ⟨"<< /FunctionType 3 /Domain [0 1] /Functions [", "] /Bounds [" ++ writeNumbers bounds ++ "] /Encode [" ++
      " ".intercalate (parts.map fun _ => "0 1") ++ "] >>", ?_⟩
    unfold write ShadingFunction.parts
    simp only [String.append_assoc]

/-- A shading names its space before its functions. -/
theorem Shading.exists_write (shading : Shading Float) : ∃ before between behind, shading.write =
    before ++ "/ColorSpace " ++ shading.space.name ++ between ++
      " ".intercalate (shading.function.parts.map fun part => ShadingFunction.writePart part.1 part.2) ++ behind := by
  obtain ⟨before, behind, hwritten⟩ := shading.function.exists_write
  refine ⟨"<< /ShadingType " ++ shading.geometry.write.1 ++ " ", " /Coords [" ++ shading.geometry.write.2 ++
    "] /Domain [0 1] /Function " ++ before, behind ++ " /Extend [true true] >>", ?_⟩
  unfold write
  simp only [hwritten, String.append_assoc]
  rfl

namespace Converter

variable {α : Type} [Scalar α]

/-- All colors that a converter has registered, and all that it has written for documents, are in range. -/
structure InRange (converter : Converter α) : Prop where
  ledger : converter.ledger.All Resource.InRange
  documents : ∀ tree ∈ converter.documents, Operator.AllInRange tree.operators

namespace InRange

variable {converter : Converter α}

theorem fresh (options : Options α) : (fresh options).InRange where
  ledger _ hmem := absurd hmem (Array.not_mem_empty _)
  documents _ hmem := absurd hmem (Array.not_mem_empty _)

theorem render (h : converter.InRange) {handle : Int} {operators : List (Operator α)}
    (hrendered : converter.render handle = .ok operators) : Operator.AllInRange operators := by
  rw [Converter.render] at hrendered
  split at hrendered
  · cases hrendered
  · split at hrendered
    next tree htree =>
      cases hrendered
      exact h.documents tree (Array.mem_of_getElem? htree)
    next => cases hrendered

variable [Scalar.Bounded α] [Scalar.Complemented α]

/-- A conversion adds no colors but those in range, even if it fails. -/
theorem convert (h : converter.InRange) (source : String) (x y : α) (size : Size α) (pageHeight : α) :
    (converter.convert source x y size pageHeight).2.InRange := by
  rw [Converter.convert]
  dsimp only
  split
  next => exact h
  next markup hsource =>
    split
    · exact h
    · let setting := setting converter.options x y size pageHeight
      have hledger := Embedding.KeepsColors.convertDocument.ledger setting markup converter.ledger h.ledger
      have hoperators := Embedding.KeepsColors.convertDocument.operators setting markup converter.ledger h.ledger
      split
      next failure ledger hfailed =>
        rw [hfailed] at hledger
        exact ⟨hledger, h.documents⟩
      next tree ledger hconverted =>
        rw [hconverted] at hledger
        refine ⟨(Registers.tells (.notify _)).ledger hledger, fun other hmem => ?_⟩
        obtain hold | rfl := Array.mem_push.1 hmem
        · exact h.documents other hold
        · exact hoperators other ledger hconverted

theorem run (h : converter.InRange) (calls : List (Call α)) : (converter.run calls).2.InRange := by
  induction calls generalizing converter with
  | nil => exact h
  | cons call rest ih =>
    rw [run_cons]
    cases call with
    | convert source x y size pageHeight => exact ih (h.convert source x y size pageHeight)
    | render handle => exact ih h

end InRange

/-- Whatever documents are converted, and whatever colors, paints and gradients are in them: a color is written with
    as many components as the operator takes that sets it, and in a shading with as many as the space of the shading
    has, and all of them are from zero to one. So is the alpha of whatever is read as a color. -/
theorem colors_of_run (options : Options Float) (calls : List (Call Float)) :
    let last := ((fresh options).run calls).2
    (∀ handle operators, last.render handle = .ok operators → ∀ operator ∈ operators, ∀ color,
      (operator = .fillColor color → ∃ operands, color.space.IsOperands operands ∧
        operator.write = operands ++ " " ++ color.space.fillOperator ++ "\n") ∧
      (operator = .strokeColor color → ∃ operands, color.space.IsOperands operands ∧
        operator.write = operands ++ " " ++ color.space.strokeOperator ++ "\n")) ∧
    (∀ shading, .shading shading ∈ last.ledger.resources →
      (∃ before between behind, (Resource.shading shading).write =
        before ++ "/ColorSpace " ++ shading.space.name ++ between ++
          " ".intercalate (shading.function.parts.map fun part => ShadingFunction.writePart part.1 part.2) ++ behind) ∧
      ∀ part ∈ shading.function.parts,
        shading.space.IsOperands part.1.write ∧ shading.space.IsOperands part.2.write) ∧
    ∀ token (resolved : ResolvedColor Float), ResolvedColor.read? token = some resolved → IsAlpha resolved.alpha := by
  intro last
  have hlast : last.InRange := (InRange.fresh options).run calls
  refine ⟨fun handle operators hrendered operator hmem color => ?_, fun shading hmem => ?_, fun token resolved hread =>
    (ResolvedColor.inRange_of_read hread).alpha⟩
  · have hoperator := hlast.render hrendered operator hmem
    constructor
    all_goals
      rintro rfl
      have hcolor : color.Fits color.space := ⟨rfl, hoperator⟩
      exact ⟨color.write, hcolor.isOperands, rfl⟩
  · have hfits : shading.Fits := hlast.ledger _ hmem
    exact ⟨shading.exists_write, fun part hpart =>
      ⟨(hfits part hpart).1.isOperands, (hfits part hpart).2.isOperands⟩⟩

/-- Too much ink and a channel beyond 255 are written as ones. -/
theorem colors_of_excess :
    let last := ((fresh Double.converter.options).run [.convert ("<svg width='10' height='20'>" ++
      "<path d='M0 0H10V20' fill='cmyk(0%, 200%, 50%, 25%)' stroke='rgb(300, -1, 40%)'/></svg>") 0 0 ⟨0, 0⟩ 100]).2
    ∃ operators, last.render 1 = .ok operators ∧
      .fillColor (.cmyk 0 1 0.5 0.25) ∈ operators ∧ .strokeColor (.rgb 1 0 0.4) ∈ operators ∧
      (∃ operands, ColorSpace.cmyk.IsOperands operands ∧
        (Operator.fillColor (.cmyk (0 : Float) 1 0.5 0.25)).write = operands ++ " " ++ "k" ++ "\n") ∧
      ∃ operands, ColorSpace.rgb.IsOperands operands ∧
        (Operator.strokeColor (.rgb (1 : Float) 0 0.4)).write = operands ++ " " ++ "RG" ++ "\n" := by
  intro last
  have hlast : (last.render 1).toOption.any (fun operators =>
      Operator.fillColor (.cmyk 0 1 0.5 0.25) ∈ operators ∧
        Operator.strokeColor (.rgb 1 0 0.4) ∈ operators) = true := by
    decide +kernel
  obtain ⟨hwritten, -⟩ := colors_of_run Double.converter.options [_]
  cases hrendered : last.render 1 with
  | error failure =>
    rw [hrendered] at hlast
    cases hlast
  | ok operators =>
    rw [hrendered] at hlast
    obtain ⟨hfill, hstroke⟩ := of_decide_eq_true hlast
    exact ⟨operators, rfl, hfill, hstroke, (hwritten 1 operators hrendered _ hfill _).1 rfl,
      (hwritten 1 operators hrendered _ hstroke _).2 rfl⟩

end Converter

end SvgPage
