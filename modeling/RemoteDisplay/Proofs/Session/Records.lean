import RemoteDisplay.Proofs.Session.Conservation
import RemoteDisplay.Proofs.Session.Passing
import RemoteDisplay.Proofs.Wire.Layout

/-!
# What a drawable's record says

A drawing is written down in several places: in the command, in the drawable's bytes, in the image
beside it and in what the server is told. All of them come from one call of a builder, and they agree.
-/

namespace RemoteDisplay

/-- What a builder is asked to draw. -/
inductive Drawing where
  | image (pixels : View) (stride : UInt32) (damage : Damage)
  | solid (colour : UInt32)

def Drawing.kind : Drawing → CommandKind
  | .image .. => .drawCopy
  | .solid _ => .drawFill

def CommandKind.recordType? : CommandKind → Option UInt8
  | .createSurface => none
  | .drawCopy => some Wire.Drawable.copyType
  | .drawFill => some Wire.Drawable.fillType

namespace Wire

/-- The record is of this kind, for this surface and area, and it is given back under this id. -/
structure Drawable.Names (d : Drawable) (kind : CommandKind) (surface : SurfaceId) (bbox : Rect)
    (id : ReleaseId) : Prop where
  type : some d.type = kind.recordType?
  surface : d.surface = surface.raw
  bbox : d.bbox = bbox
  release : d.release.id = id.raw

/-- The drawing hides what was below it, nothing clips it, and it needs no other surface. -/
structure Drawable.Plain (d : Drawable) : Prop where
  effect : d.effect = effectOpaque
  clip : d.clip = {}
  dependencies : d.dependencies = (-1, -1, -1)

/-- The image has a size and a stride, in its head as in its bitmap, and the device's number. -/
structure Image.Describes (image : Image) (width height stride : UInt32) (number : ImageId) : Prop where
  head : image.head.width = width ∧ image.head.height = height
  bitmap : image.bitmap.width = width ∧ image.bitmap.height = height
  stride : image.bitmap.stride = stride
  format : image.bitmap.format = Bitmap.format32 ∧ image.bitmap.flags = Bitmap.directTopDown
  id : image.head.id.toNat = number.raw.toNat * 2 ^ 32 + 1

end Wire

/-- The record's body and what stands beside it show the drawing. -/
def Drawing.ShownBy (c : Command) (d : Wire.Drawable) (width height : UInt32) : Drawing → Prop
  | .image pixels stride damage =>
    (∃ copy, d.copy? = some copy ∧ copy.area.Spans 0 0 width height) ∧
    ∃ blit image, c.payload = .copy blit ∧ blit.pixels = pixels ∧ blit.damage = damage.regions ∧
      Wire.Image.layout.read (Wire.Image.layout.encode blit.image) = some image ∧
      image.Describes width height stride blit.imageId
  | .solid colour =>
    ∃ fill, d.fill? = some fill ∧ fill.brush.type = Wire.Brush.solidType ∧
      fill.brush.colour? = some colour

namespace Session

def build (s : Session) (b : Nat) (surface : SurfaceId) (x y : Int32) (width height : UInt32) :
    Drawing → Except Trap (Except Fault Command × Session)
  | .image pixels stride damage => s.buildBlit b surface x y width height pixels stride damage
  | .solid colour => return s.buildFill b surface colour x y width height

variable {s t : Session}

/-! ## Building -/

theorem toNat_drawingTime (b : Nat) : ((s.drawingTime b).toNat : Int) =
    ((s.clock.toNat : Int) - (s.builder b).skew.toNat) % 4294967296 := by
  have hclock := s.clock.toNat_lt
  have hskew := (s.builder b).skew.toNat_lt
  rw [drawingTime, UInt32.toNat_sub]
  omega

theorem describes_imageRecord (number : ImageId) (width height stride : UInt32) :
    (imageRecord number width height stride).Describes width height stride number where
  head := ⟨rfl, rfl⟩
  bitmap := ⟨rfl, rfl⟩
  stride := rfl
  format := ⟨rfl, rfl⟩
  id := Wire.Image.toNat_id_setId _ number.raw

/-! ## Serving -/

/-- The server learns of the drawable what its record says, and gives it back under the record's id. -/
structure Served (c : Command) (d : Wire.Drawable) : Prop where
  fetched : ∀ u : Session, u.ring.WellFormed → u.server.closed = false →
    ∀ passed rest, u.queue = passed ++ c :: rest → (∀ e ∈ passed, e.record? ≠ none) →
      (passed = [] ∨ u.server.worker.isSome) →
      ∃ report t, u.nextCommand = (.ok (some report), t) ∧
        d.Names report.kind report.surface report.bbox report.id ∧ c ∈ t.server.held
  returned : ∀ u : Session, u.Sound → c ∈ u.server.held → ∀ id group,
    (u.giveBack id group).1 = .ok (c.notice .server) ↔
      group = Wire.memorySlotGroup ∧ id.raw = d.release.id

theorem served {c : Command} {d : Wire.Drawable} (hrecord : c.record? = none)
    (hd : d.Names c.kind c.surface c.bbox c.id) : Served c d where
  fetched u hring hopen passed rest hqueue hpassed hworker := by
    have hlength : passed.length < u.ring.length := by
      rw [← hring.length_toList, show u.ring.toList = _ from hqueue, List.length_append]
      simp
    obtain ⟨v, ring, -, -, -, -, hfetch⟩ := fetch_past hring hqueue hpassed hworker hrecord hlength
    exact ⟨c.dispatched, _, by simp [nextCommand, hopen, hfetch], hd,
      List.mem_of_find?_eq_some (heldCommand?_handOff (s := { v with ring }) c)⟩
  returned u hu hc id group := by
    have hfind : u.heldCommand? c.id = some c := find?_held hu.held hc
    rw [hd.release]
    constructor
    · intro hback
      rcases u.giveBack_cases id group with ⟨-, he⟩ | ⟨-, -, he⟩ | ⟨e, hgroup, hheld, he⟩
      · rw [he] at hback
        cases hback
      · rw [he] at hback
        cases hback
      · rw [he] at hback
        -- The notice carries the id under which the command was found.
        have hid : e.id = id := by simpa using List.find?_some hheld
        have hsame : e.id = c.id := congrArg Notice.id (Except.ok.inj hback)
        exact ⟨hgroup, by rw [← hid, hsame]⟩
    · rintro ⟨rfl, hid⟩
      obtain rfl : id = c.id := by
        cases id
        exact congrArg ReleaseId.mk hid
      obtain ⟨t, ht⟩ := hu.giveBack_held hc
      rw [ht]

/-! ## Drawings -/

/-- Every drawing that a builder makes is in the bytes of its record as it was asked for: under the
next release id, at the builder's time, on the surface and area, and with the body of its kind. -/
theorem build_recorded {b : Nat} {surface : SurfaceId} {x y : Int32} {width height : UInt32}
    {drawing : Drawing} {c : Command}
    (h : s.build b surface x y width height drawing = .ok (.ok c, t)) :
    ∃ bytes d, c.drawable?.map Wire.Drawable.layout.encode = some bytes ∧ bytes.length = 199 ∧
      Wire.Drawable.layout.read bytes = some d ∧ d.Names c.kind c.surface c.bbox c.id ∧
      c.kind = drawing.kind ∧ c.ticket = s.nextTicket b ∧ c.surface = surface ∧
      c.bbox.Spans x y width height ∧ d.Plain ∧
      (d.time.toNat : Int) = ((s.clock.toNat : Int) - (s.builder b).skew.toNat) % 4294967296 ∧
      drawing.ShownBy c d width height ∧ Served c d := by
  cases drawing with
  | image pixels stride damage =>
      rcases buildBlit_cases h with ⟨e, he⟩ | ⟨bbox, -, hbbox, -, -, he⟩
      · cases he
      · cases he
        have hnames : (copyDrawable surface bbox (s.nextTicket b).id (s.drawingTime b) width
            height).Names .drawCopy surface bbox (s.nextTicket b).id := ⟨rfl, rfl, rfl, rfl⟩
        have hsize := Rect.size_of_ofOrigin? hbbox
        refine ⟨_, _, rfl, Wire.Drawable.exact.size _, Wire.Drawable.exact.read_encode _, hnames, rfl,
          rfl, rfl, Rect.spans_of_ofOrigin? hbbox, ⟨rfl, rfl, rfl⟩, toNat_drawingTime b, ⟨?_, ?_⟩,
          served rfl hnames⟩
        · refine ⟨_, Wire.Drawable.copy?_setCopy _ _, ?_⟩
          exact Rect.spans_of_ofOrigin? (Rect.ofOrigin?_zero hsize.1 hsize.2)
        · exact ⟨_, _, rfl, rfl, rfl, Wire.Image.exact.read_encode _,
            describes_imageRecord _ width height stride⟩
  | solid colour =>
      rcases s.buildFill_cases b surface colour x y width height with ⟨e, he⟩ | ⟨bbox, -, -, hbbox, he⟩
      · rw [build, he] at h
        cases h
      · rw [build, he] at h
        cases h
        have hnames : (fillDrawable surface bbox (s.nextTicket b).id (s.drawingTime b) colour).Names
            .drawFill surface bbox (s.nextTicket b).id := ⟨rfl, rfl, rfl, rfl⟩
        refine ⟨_, _, rfl, Wire.Drawable.exact.size _, Wire.Drawable.exact.read_encode _, hnames, rfl,
          rfl, rfl, Rect.spans_of_ofOrigin? hbbox, ⟨rfl, rfl, rfl⟩, toNat_drawingTime b, ?_,
          served rfl hnames⟩
        exact ⟨_, Wire.Drawable.fill?_setFill _ _, rfl, Wire.Brush.colour?_solid colour⟩

/-- A clock that is behind the builder's skew, and an area left of the surface. -/
theorem build_recorded_before_zero :
    ∃ s t c, build s 0 ⟨7⟩ (-3) 4 2 1 (.image ⟨⟨0⟩, 0, 2, 1, 8⟩ 8 .empty) = .ok (.ok c, t) ∧
      s.clock = 100 ∧ (s.builder 0).skew = 250 ∧
      ∃ bytes d, c.drawable?.map Wire.Drawable.layout.encode = some bytes ∧
        Wire.Drawable.layout.read bytes = some d ∧ d.bbox.right.toInt = -1 ∧
        d.time.toNat = 4294967146 ∧ d.surface = 7 := by
  let s : Session := { ofRing (.ofCapacity 2 0) 0 2 [250] with
    clock := 100
    store := { blocks := #[⟨⟨#[1, 2, 3, 4, 5, 6, 7, 8]⟩, 1⟩] } }
  have hmade : (s.build 0 ⟨7⟩ (-3) 4 2 1 (.image ⟨⟨0⟩, 0, 2, 1, 8⟩ 8 .empty)).toOption.map
      (·.1.isOk) = some true := by
    decide +kernel
  cases hbuild : s.build 0 ⟨7⟩ (-3) 4 2 1 (.image ⟨⟨0⟩, 0, 2, 1, 8⟩ 8 .empty) with
  | error trap =>
      rw [hbuild] at hmade
      cases hmade
  | ok built =>
      rw [hbuild] at hmade
      obtain ⟨_ | c, t⟩ := built
      · cases hmade
      · obtain ⟨bytes, d, hbytes, -, hread, hnames, -, -, hsurface, hspans, -, htime, -⟩ :=
          build_recorded hbuild
        refine ⟨s, t, c, hbuild, rfl, rfl, bytes, d, hbytes, hread, ?_, ?_, ?_⟩
        · rw [hnames.bbox, hspans.right]
          rfl
        · have hbehind : ((s.clock.toNat : Int) - (s.builder 0).skew.toNat) % 4294967296 = 4294967146 := rfl
          omega
        · rw [hnames.surface, hsurface]

end Session

end RemoteDisplay
