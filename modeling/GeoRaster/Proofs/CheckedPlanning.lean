import GeoRaster.Proofs.FirstFault

namespace GeoRaster

namespace GridRange

variable {width height : ℕ}

def lastIndex? (size : ℕ) : Except Overflow Int64 :=
  Build.checked.predecessor (Int64.ofInt (min (size : ℤ) Int64.maxValue.toInt))

def ofSize? (width height : ℕ) : Except Overflow GridRange := do
  let col ← lastIndex? width
  let row ← lastIndex? height
  return ⟨[0, 0], [col, row]⟩

theorem lastIndex?_eq (size : ℕ) : lastIndex? size = .ok (lastIndex size) := by
  have hmin : Int64.minValue.toInt = -2 ^ 63 := by decide
  have hmax : Int64.maxValue.toInt = 2 ^ 63 - 1 := by decide
  apply if_neg
  intro h
  have := congrArg Int64.toInt h
  rw [Int64.toInt_ofInt_of_le (by omega) (by omega)] at this
  omega

theorem ofSize?_eq (width height : ℕ) : ofSize? width height = .ok (ofSize width height) := by
  rw [ofSize?, lastIndex?_eq, lastIndex?_eq]
  rfl

end GridRange

variable {α : Type} [Scalar α]

def share? (span : α) (count : ℕ) : Option α :=
  if count = 0 then none else some (span / Scalar.ofNat count)

theorem share?_eq (span : α) {count : ℕ} (h : 0 < count) :
    share? span count = some (span / Scalar.ofNat count) :=
  if_neg h.ne'

namespace GridGeometry

def overRange? (r : GridRange) (b : Bounds α) (crs : Option Crs) :
    Option (Except (PlanningFault α) (GridGeometry α)) := do
  let scaleX ← share? b.width r.width
  let scaleY ← share? (-b.height) r.height
  let low (axis : ℕ) : α := Scalar.ofInt64 (r.low.getD axis 0)
  return plan r (.ofOrigin (b.minX - low 0 * scaleX) (b.maxY - low 1 * scaleY) scaleX scaleY) crs

def cellsFor? (span offset : α) : Option ℕ :=
  if offset == 0.0 then none else some (cellsFor span offset)

def overOffsets? (offsetX offsetY : α) (origin : Option (α × α)) (b : Bounds α)
    (crs : Option Crs) : Option (Except (PlanningFault α) (GridGeometry α)) := do
  let width ← cellsFor? b.width offsetX
  let height ← cellsFor? b.height offsetY
  let range ← (GridRange.ofSize? width height).toOption
  match origin with
  | some (x, y) => return plan range (.ofOrigin x y offsetX offsetY) crs
  | none =>
    return plan range (.ofOrigin b.minX b.maxY (Scalar.abs offsetX) (-Scalar.abs offsetY)) crs

/-- Planning with overflow checks that comes to nothing where it would divide by zero or count the
last of some cells back from the least index. -/
def planned? (request : Option (RequestGrid α)) (native : GridGeometry α) (target : Envelope α) :
    Option (Except (PlanningFault α) (GridGeometry α)) :=
  let crs := target.crs.map Crs.eastingFirst
  let b := target.bounds
  match request with
  | none => some (native.nativeCells .checked b crs)
  | some g =>
    match g.check, g.range, g.offsets with
    | .error f, _, _ => some (.error f)
    | .ok (), some r, _ => overRange? r b crs
    | .ok (), none, some (x, y) => overOffsets? x y g.origin b crs
    | .ok (), none, none =>
      if native.transform.isIdentity then do
        let range ← (GridRange.ofSize? 1 1).toOption
        return plan range .identity crs
      else some (native.nativeCells .checked b crs)

def UsedBy (native : GridGeometry α) (request : Option (RequestGrid α)) : Prop :=
  ∀ g ∈ request, g.range = none ∧ g.offsets = none ∧ native.transform.isIdentity = false

/-- Native cells are wanted for a box that ends at the least column or row, or before it. -/
def Wraps (native : GridGeometry α) (request : Option (RequestGrid α)) (b : Bounds α) : Prop :=
  native.UsedBy request ∧ ∃ inverse, native.transform.inverse? = some inverse ∧
    (EndsAtLeast (inverse.positionsOf b).maxX ∨ EndsAtLeast (inverse.positionsOf b).maxY)

variable {native g : GridGeometry α} {request : Option (RequestGrid α)} {b : Bounds α}
  {crs : Option Crs} {target : Envelope α} {inverse : Affine α}

theorem overRange?_eq {r : GridRange} (hr : r.IsPlanar) :
    overRange? r b crs = some (overRange r b crs) := by
  have hw : 0 < r.width := width_pos ⟨r, (default : Affine ℚ), none, hr⟩
  have hh : 0 < r.height := height_pos ⟨r, (default : Affine ℚ), none, hr⟩
  rw [overRange?, share?_eq _ hw, share?_eq _ hh]
  rfl

theorem overOffsets?_eq {x y : α} (hx : (x == 0.0) = false) (hy : (y == 0.0) = false)
    (origin : Option (α × α)) :
    overOffsets? x y origin b crs = some (overOffsets x y origin b crs) := by
  have hcols : cellsFor? b.width x = some (cellsFor b.width x) := if_neg (by simp [hx])
  have hrows : cellsFor? b.height y = some (cellsFor b.height y) := if_neg (by simp [hy])
  rw [overOffsets?, hcols, hrows]
  simp only [Option.bind_eq_bind, Option.bind_some, GridRange.ofSize?_eq, Except.toOption]
  cases origin <;> rfl

/-- A checked request gets native cells, or a grid that is planned alike in all builds. -/
theorem planned_cases (native : GridGeometry α) (target : Envelope α)
    (hrequest : ∀ g ∈ request, g.check = .ok ()) :
    (native.UsedBy request ∧
        (∀ build, planned build request native target =
          native.nativeCells build target.bounds (target.crs.map Crs.eastingFirst)) ∧
        planned? request native target = some (planned .checked request native target)) ∨
      ¬ native.UsedBy request ∧ ∃ g, (∀ build, planned build request native target = .ok g) ∧
        planned? request native target = some (.ok g) := by
  cases request with
  | none => exact .inl ⟨by simp [UsedBy], fun _ => rfl, rfl⟩
  | some g =>
    have hcheck := hrequest g rfl
    have hsound := RequestGrid.errorOf?_check g ▸ errorOf?_eq_none.mpr ⟨_, hcheck⟩
    simp only [Option.or_eq_none_iff, RequestGrid.errorOf?_checkRange,
      RequestGrid.errorOf?_checkOffsets] at hsound
    obtain ⟨hrange, hoffsets, -⟩ := hsound
    obtain ⟨range, origin, offsets⟩ := g
    simp only [planned, planned?, hcheck, bind, Except.bind]
    -- a range or offsets settle the grid, and so does a native grid without a place
    cases range with
    | some r =>
      have hplanar : r.IsPlanar := hrange r rfl
      refine .inr ⟨by simp [UsedBy], _, fun _ => plan_eq hplanar, ?_⟩
      exact (overRange?_eq hplanar).trans (congrArg some (plan_eq hplanar))
    | none =>
      cases offsets with
      | some o =>
        obtain ⟨-, hx, -, hy⟩ := hoffsets o rfl
        have hplanar : (GridRange.ofSize (cellsFor target.bounds.width o.1)
            (cellsFor target.bounds.height o.2)).IsPlanar :=
          GridRange.isPlanar_ofSize (cellsFor_pos ..) (cellsFor_pos ..)
        refine .inr ⟨by simp [UsedBy], ?_⟩
        simp only [overOffsets?_eq hx hy origin]
        cases origin <;> exact ⟨_, fun _ => plan_eq hplanar, congrArg some (plan_eq hplanar)⟩
      | none =>
        cases hidentity : native.transform.isIdentity with
        | true =>
          have hplanar : (GridRange.ofSize 1 1).IsPlanar :=
            GridRange.isPlanar_ofSize Nat.one_pos Nat.one_pos
          refine .inr ⟨by simp [UsedBy, hidentity], _, fun _ => plan_eq hplanar, ?_⟩
          rw [GridRange.ofSize?_eq]
          exact congrArg some (plan_eq hplanar)
        | false => exact .inl ⟨by simp [UsedBy, hidentity], fun _ => rfl, rfl⟩

theorem nativeCells_overflow_iff (hused : native.UsedBy request) :
    native.nativeCells .checked b crs = .error (.overflow .subtract) ↔ native.Wraps request b := by
  cases hinverse : native.transform.inverse? with
  | none => simp [nativeCells_of_none hinverse, Wraps, hinverse]
  | some inverse =>
    have hwraps : native.Wraps request b ↔
        EndsAtLeast (inverse.positionsOf b).maxX ∨ EndsAtLeast (inverse.positionsOf b).maxY := by
      simp [Wraps, hused, hinverse]
    obtain ⟨g, hg, -⟩ := exists_nativeCells_of_inverse hinverse b crs
    rw [nativeCells_checked hinverse, hwraps, hg]
    by_cases hends : EndsAtLeast (inverse.positionsOf b).maxX ∨
        EndsAtLeast (inverse.positionsOf b).maxY
    · exact iff_of_true (if_pos hends) hends
    · rw [if_neg hends]
      exact iff_of_false (by simp) hends

theorem nativeCells_checked_eq_wrapping (h : ¬ native.Wraps request b)
    (hused : native.UsedBy request) :
    native.nativeCells .checked b crs = native.nativeCells .wrapping b crs := by
  cases hinverse : native.transform.inverse? with
  | none => rw [nativeCells_of_none hinverse, nativeCells_of_none hinverse]
  | some inverse =>
    rw [nativeCells_checked hinverse]
    exact if_neg fun hends => h ⟨hused, inverse, hinverse, hends⟩

theorem Wraps.exists_nativeCells (h : native.Wraps request b) :
    ∃ g, native.nativeCells .wrapping b crs = .ok g ∧
      (g.high 0 = Int64.maxValue ∨ g.high 1 = Int64.maxValue) := by
  obtain ⟨-, inverse, hinverse, hends⟩ := h
  obtain ⟨g, hg, -, -, hcol, hrow⟩ := exists_nativeCells_of_inverse hinverse b crs
  refine ⟨g, hg, ?_⟩
  rw [hcol, hrow]
  exact hends.imp (lastReached_eq_maxValue · _) (lastReached_eq_maxValue · _)

theorem nativeCells_cases (hused : native.UsedBy request) (build : Build) :
    native.transform.inverse? = none ∧ native.nativeCells build b crs = .error .singular ∨
      native.transform.inverse? ≠ none ∧ (build = .checked ∧ native.Wraps request b ∨
        ∃ g, native.nativeCells build b crs = .ok g ∧ g.range.IsPlanar) := by
  cases hinverse : native.transform.inverse? with
  | none => exact .inl ⟨rfl, nativeCells_of_none hinverse ..⟩
  | some inverse =>
    refine .inr ⟨Option.some_ne_none _, ?_⟩
    obtain ⟨g, hg, -⟩ := exists_nativeCells_of_inverse hinverse b crs
    cases build with
    | wrapping => exact .inr ⟨g, hg, g.planar⟩
    | checked =>
      by_cases hwraps : native.Wraps request b
      · exact .inl ⟨rfl, hwraps⟩
      · exact .inr ⟨g, (nativeCells_checked_eq_wrapping hwraps hused).trans hg, g.planar⟩

/-- With overflow checks, planning for a request whose grid has been checked stops exactly where
native cells are wanted for a box that ends at the least index of an axis or before it; without
them it then goes on to the greatest index, and elsewhere both builds agree. Nothing is divided by
zero. Otherwise a grid with two axes, none of them empty, is planned in any case but one: native
cells are wanted and there is no way back from the ground to them. -/
theorem planned_overflow_iff (native : GridGeometry α) (target : Envelope α)
    (hrequest : ∀ g ∈ request, g.check = .ok ()) :
    (planned .checked request native target = .error (.overflow .subtract) ↔
        native.Wraps request target.bounds) ∧
      (¬ native.Wraps request target.bounds →
        planned .checked request native target = planned .wrapping request native target) ∧
      (native.Wraps request target.bounds → ∃ g, planned .wrapping request native target = .ok g ∧
        (g.high 0 = Int64.maxValue ∨ g.high 1 = Int64.maxValue)) ∧
      planned? request native target = some (planned .checked request native target) ∧
      ∀ build, native.UsedBy request ∧ native.transform.inverse? = none ∧
          planned build request native target = .error .singular ∨
        ¬ (native.UsedBy request ∧ native.transform.inverse? = none) ∧
          (build = .checked ∧ native.Wraps request target.bounds ∨
            ∃ g, planned build request native target = .ok g ∧ g.range.IsPlanar) := by
  obtain ⟨hused, hplanned, hchecked⟩ | ⟨hunused, g, hplanned, hchecked⟩ :=
    planned_cases native target hrequest
  · refine ⟨?_, fun h => ?_, fun h => ?_, hchecked, fun build => ?_⟩
    · rw [hplanned]
      exact nativeCells_overflow_iff hused
    · rw [hplanned, hplanned]
      exact nativeCells_checked_eq_wrapping h hused
    · rw [hplanned]
      exact h.exists_nativeCells
    · rw [hplanned]
      obtain ⟨hnone, hsingular⟩ | ⟨hsome, houtcome⟩ := nativeCells_cases hused build
      · exact .inl ⟨hused, hnone, hsingular⟩
      · exact .inr ⟨fun h => hsome h.2, houtcome⟩
  · refine ⟨?_, fun _ => ?_, fun h => absurd h.1 hunused, ?_, fun build => ?_⟩
    · rw [hplanned]
      exact iff_of_false (by simp) fun h => hunused h.1
    · rw [hplanned, hplanned]
    · rw [hchecked, hplanned]
    · exact .inr ⟨fun h => hunused h.1, .inr ⟨g, hplanned build, g.planar⟩⟩

section Exact

variable {native : GridGeometry Exact} {request : Option (RequestGrid Exact)} {t : Affine ℚ}
  {x y : Interval ℚ}

/-- On a grid with a rational map it is the positions of a box that decide whether indices wrap. -/
theorem wraps_exact (ht : native.transform = t.exact) (hdet : t.det ≠ 0) :
    native.Wraps request (Envelope.planeBounds x y) ↔ native.UsedBy request ∧
      (¬ EndsInRange (.overCorners t.inverse.easting x y) ∨
        ¬ EndsInRange (.overCorners t.inverse.northing x y)) := by
  rw [Wraps, ht, Affine.inverse?_exact hdet]
  simp only [Option.some_inj, exists_eq_left', Affine.positionsOf_exact]
  simp only [Envelope.planeBounds, endsAtLeast_exact, EndsInRange, not_lt]

end Exact

def originOnly : RequestGrid Exact :=
  ⟨none, some (.finite 0, .finite 0), none⟩

def farWestBox : Envelope Exact :=
  .plane ⟨-10 ^ 30, -9 * 10 ^ 29⟩ ⟨1, 2⟩ (some (.ofCode .wgs84))

theorem planned_overflow_farWest :
    (∀ g ∈ some originOnly, g.check = .ok ()) ∧
      planned .checked (some originOnly) CoverageDescriptor.smallGrid farWestBox =
        .error (.overflow .subtract) ∧
      ∃ g, planned .wrapping (some originOnly) CoverageDescriptor.smallGrid farWestBox = .ok g ∧
        (g.high 0 = Int64.maxValue ∨ g.high 1 = Int64.maxValue) := by
  have hrequest : ∀ g ∈ some originOnly, g.check = .ok () := by
    rintro g ⟨⟩
    rfl
  have hbox : farWestBox.bounds = Envelope.planeBounds ⟨-10 ^ 30, -9 * 10 ^ 29⟩ ⟨1, 2⟩ :=
    Envelope.bounds_plane_of_order rfl
  have hused : CoverageDescriptor.smallGrid.UsedBy (some originOnly) := by
    rintro g ⟨⟩
    exact ⟨rfl, rfl, by decide +kernel⟩
  have hwraps : CoverageDescriptor.smallGrid.Wraps (some originOnly) farWestBox.bounds := by
    rw [hbox]
    exact (wraps_exact (CoverageDescriptor.small_liesOn []).transform_eq (by decide +kernel)).mpr
      ⟨hused, .inl (by decide +kernel)⟩
  obtain ⟨hstops, -, hgreatest, -⟩ := planned_overflow_iff
    CoverageDescriptor.smallGrid farWestBox hrequest
  exact ⟨hrequest, hstops.mpr hwraps, hgreatest hwraps⟩

end GridGeometry

end GeoRaster
