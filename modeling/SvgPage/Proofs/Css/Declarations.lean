import Mathlib.Data.List.Basic
import SvgPage.Css.Declarations
import SvgPage.Proofs.Table

namespace SvgPage.Css

namespace DeclarationScan

/-- Where a scan stands after some characters. -/
def after (scan : DeclarationScan) (cs : List Char) : DeclarationScan := cs.foldl advance scan

variable {scan : DeclarationScan}

theorem eq_of_isOutside (h : scan.isOutside = true) : scan = {} := by
  obtain ⟨quote, depth⟩ := scan
  obtain ⟨hquote, hdepth⟩ := Bool.and_eq_true_iff.1 h
  rw [Option.isNone_iff_eq_none] at hquote
  rw [beq_iff_eq] at hdepth
  cases hquote
  cases hdepth
  rfl

/-- A semicolon changes nothing where it ends a declaration. -/
theorem advance_semicolon (h : scan.isOutside = true) : scan.advance ';' = scan := by
  rw [eq_of_isOutside h]
  rfl

theorem split_ne_nil (scan : DeclarationScan) (cs : List Char) : scan.split cs ≠ [] := by
  cases cs with
  | nil => exact List.cons_ne_nil _ _
  | cons c rest =>
    rw [split]
    split
    · exact List.cons_ne_nil _ _
    · split
      · exact List.cons_ne_nil _ _
      · exact List.cons_ne_nil _ _

theorem split_semicolon (h : scan.isOutside = true) (rest : List Char) :
    scan.split (';' :: rest) = [] :: scan.split rest := by
  rw [split, h]
  rfl

/-- Any other character belongs to the piece that begins with it. -/
theorem split_cons {c : Char} (h : (c == ';' && scan.isOutside) = false) (rest : List Char) :
    ∃ piece pieces, (scan.advance c).split rest = piece :: pieces ∧
      scan.split (c :: rest) = (c :: piece) :: pieces := by
  obtain ⟨piece, pieces, hpieces⟩ := List.exists_cons_of_ne_nil ((scan.advance c).split_ne_nil rest)
  refine ⟨piece, pieces, hpieces, ?_⟩
  rw [split, h, if_neg Bool.false_ne_true, hpieces]

/-- The pieces on both sides of a semicolon that ends a declaration have nothing to do with each other. -/
theorem split_append {cs : List Char} (h : (scan.after cs).isOutside = true) (rest : List Char) :
    scan.split (cs ++ ';' :: rest) = scan.split cs ++ ({} : DeclarationScan).split rest := by
  induction cs generalizing scan with
  | nil =>
    have houtside : scan.isOutside = true := h
    rw [List.nil_append, split_semicolon houtside, split, eq_of_isOutside houtside]
    rfl
  | cons c cs ih =>
    have hafter : ((scan.advance c).after cs).isOutside = true := h
    cases hends : c == ';' && scan.isOutside with
    | true =>
      obtain ⟨hsemicolon, houtside⟩ := Bool.and_eq_true_iff.1 hends
      rw [beq_iff_eq] at hsemicolon
      subst hsemicolon
      rw [advance_semicolon houtside] at hafter
      rw [List.cons_append, split_semicolon houtside, split_semicolon houtside, ih hafter, List.cons_append]
    | false =>
      obtain ⟨piece, pieces, hpieces, hsplit⟩ := split_cons hends cs
      obtain ⟨piece', pieces', hpieces', hsplit'⟩ := split_cons hends (cs ++ ';' :: rest)
      rw [ih hafter, hpieces, List.cons_append] at hpieces'
      obtain ⟨rfl, rfl⟩ := List.cons.inj hpieces'
      rw [List.cons_append, hsplit, hsplit', List.cons_append]

end DeclarationScan

/-- Whether a style leaves neither a quotation nor a parenthesis open at its end. -/
def EndsOutside (style : String) : Prop := (({} : DeclarationScan).after style.toList).isOutside = true

instance (style : String) : Decidable (EndsOutside style) := inferInstanceAs (Decidable (_ = true))

/-- The declarations of a style in the order in which they are written. -/
def declarations (style : String) : List (String × String) :=
  (({} : DeclarationScan).split style.toList).filterMap readDeclaration?

theorem parseDeclarations_eq (style : String) : parseDeclarations style = ({} : Table String).setAll (declarations style) :=
  rfl

theorem declarations_join {style : String} (h : EndsOutside style) (further : String) :
    declarations (style ++ ";" ++ further) = declarations style ++ declarations further := by
  have htext : (style ++ ";" ++ further).toList = style.toList ++ ';' :: further.toList := by
    simp only [String.toList_append, List.append_assoc]
    rfl
  rw [declarations, htext, DeclarationScan.split_append h, List.filterMap_append]
  rfl

end SvgPage.Css
