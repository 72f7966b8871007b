/-
Module: MarketX.Proofs.WebhookSignatures
Purpose: Whether the signature that is sent with a delivery is the one its
  receiver expects, and what the check makes of any other signature.
Trusted boundary: human-reviewed definition of Validates
Main exports: Validates, posted, validateSignature_hex, signatures_agree_iff
-/
import MarketX.Proofs.WebhookAttempts

namespace MarketX.OutgoingWebhooks

open Effects Numerals WebhooksService

/-! ### The property -/

/-- The signature in the header is that of the body, as the receiver of the
POST sees it. -/
def Validates (service : WebhooksService) (request : PostRequest) (secret : String) : Prop :=
  ∃ signature, request.headers.lookup "X-Webhook-Signature" = some signature ∧
    service.validateSignature request.body.stringify signature secret = .ok true

/-! ### The check -/

section

variable (service : WebhooksService)

theorem validateSignature_hex (text secret : String) (digest : Digest) :
    service.validateSignature text (String.ofList (hex digest)) secret =
      .ok (digest = service.hmac secret text) := by
  simp [validateSignature, timingSafeEqual, hexBytes_hex_inj]

/-- A signature that does not decode to the digest is turned away iff it
decodes to as many bytes. -/
theorem validateSignature_rejects_iff {text signature secret : String}
    (other : hexBytes signature.toList ≠ hexBytes (hex (service.hmac secret text))) :
    service.validateSignature text signature secret = .ok false ↔
      (hexBytes signature.toList).length = 32 := by
  grind [validateSignature, timingSafeEqual, length_hexBytes_hex]

end

/-! ### What is posted -/

section

variable (service : WebhooksService)

structure SameContent (delivery original : WebhookDelivery) : Prop where
  id : delivery.id = original.id
  eventType : delivery.eventType = original.eventType
  payload : delivery.payload = original.payload
  signature : delivery.signature = original.signature
  createdAt : delivery.createdAt = original.createdAt

theorem SameContent.request {delivery original : WebhookDelivery}
    (same : SameContent delivery original) (url : String) :
    service.deliveryRequest url delivery =
      service.deliveryRequest url original := by
  simp only [deliveryRequest, deliveryBody, same.id, same.eventType,
    same.payload, same.signature, same.createdAt]

def Delivers (original : WebhookDelivery) : Op → Prop
  | .post request => ∃ url, request = service.deliveryRequest url original
  | .mutateDelivery delivery => SameContent delivery original
  | .setDelivery _ => False
  | _ => True

def Holds (original : WebhookDelivery) (world : World) : Prop :=
  ∃ delivery, world.deliveryQueue.row original.id = some delivery ∧ SameContent delivery original

variable {service} {original : WebhookDelivery}

theorem Delivers.kept (op : Op) (world : World)
    (delivers : Delivers service original op) (holds : Holds original world) :
    Holds original (outgoing.act op world).2 := by
  cases op with
  | mutateDelivery delivery =>
    show Holds original (if _ then _ else world)
    split
    · exact ⟨delivery, delivers.id ▸ Table.row_save_self _ _, delivers⟩
    · exact holds
  | setDelivery delivery => exact delivers.elim
  | update id changes =>
    show Holds original (world.changeWebhook _ _)
    unfold Holds
    rwa [changeWebhook_deliveryQueue]
  | increment id =>
    show Holds original (world.changeWebhook _ _)
    unfold Holds
    rwa [changeWebhook_deliveryQueue]
  | _ => exact holds

theorem deliver_uses {delivery : WebhookDelivery} (same : SameContent delivery original) :
    (service.deliver delivery).Uses (Delivers service original) := by
  refine Program.Uses.bind ?_ fun webhook => ?_
  · refine (Program.uses_perform trivial).bind fun found => ?_
    cases found <;> trivial
  refine (Program.uses_perform ⟨webhook.url, same.request service _⟩).bind
    fun response => (Program.uses_perform ⟨same.id, same.eventType, same.payload, same.signature,
        same.createdAt⟩).bind fun _ => ?_
  refine Program.Uses.bind ?_ fun _ => Program.uses_perform trivial
  exact (Program.uses_perform trivial).bind fun _ => Program.uses_perform trivial

theorem attemptFailed_uses {delivery : WebhookDelivery}
    (same : SameContent delivery original) (error : DeliveryError) :
    (attemptFailed delivery error).Uses (Delivers service original) := by
  obtain ⟨id, eventType, payload, signature, createdAt⟩ := same
  refine Program.Uses.branch _ ?_ ?_
  · refine (Program.uses_perform ⟨id, eventType, payload, signature, createdAt⟩).bind fun _ => ?_
    refine Program.Uses.bind ?_ fun _ => Program.uses_perform trivial
    exact (Program.uses_perform trivial).bind fun _ =>
      (Program.uses_perform trivial).bind fun _ => Program.uses_perform trivial
  · exact (Program.uses_perform trivial).bind fun now =>
      (Program.uses_perform ⟨id, eventType, payload, signature, createdAt⟩).bind fun _ =>
      Program.uses_perform trivial

theorem attemptDelivery_delivers (service : WebhooksService) (world : World)
    (holds : Holds original world) :
    outgoing.wpTraced (service.attemptDelivery original.id) (fun _ performed after =>
        (∀ entry ∈ performed, Delivers service original entry.1) ∧
          Holds original after) world := by
  obtain ⟨delivery, stored, same⟩ := holds
  have read : outgoing.act (.getDelivery original.id) world =
      (some delivery, world) := Prod.ext stored rfl
  unfold attemptDelivery
  rw [Handler.wpTraced_bind, await, Handler.wpTraced_perform, read]
  refine ⟨?_, by intros; contradiction⟩
  have uses : (await .dateNow >>= fun updatedAt =>
      let delivery :=
        { delivery with attempts := delivery.attempts + 1, updatedAt }
      await (.mutateDelivery delivery) >>= fun _ =>
        Program.tryCatch (service.deliver delivery)
          (attemptFailed delivery)).Uses (Delivers service original) := by
    refine (Program.uses_perform trivial).bind fun updatedAt => ?_
    have again : SameContent { delivery with
        attempts := delivery.attempts + 1, updatedAt } original :=
      ⟨same.id, same.eventType, same.payload, same.signature, same.createdAt⟩
    refine (Program.uses_perform again).bind fun _ => ?_
    refine (deliver_uses again).attempt.bind fun outcome => ?_
    cases outcome with
    | ok value => trivial
    | error error => exact attemptFailed_uses again error
  refine Handler.wpTraced_mono (Handler.wpTraced_of_uses Delivers.kept uses
    ⟨delivery, stored, same⟩) ?_
  exact fun _ later after both =>
    ⟨List.forall_mem_cons.mpr ⟨trivial, both.1⟩, both.2⟩

theorem posted {world : World} (holds : Holds original world)
    (fires : List Firing) {performed : List (Op × Bool)}
    (attempt : performed ∈ attempts service original.id world fires)
    {request : PostRequest} {threw : Bool} (post : (Op.post request, threw) ∈ performed) :
    ∃ url, request = service.deliveryRequest url original := by
  induction fires generalizing world with
  | nil => cases attempt
  | cons fire fires ih =>
    rw [attempts] at attempt
    split at attempt
    next pending =>
      have delivers := Handler.wpTraced_sound (attemptDelivery_delivers service
          (world.fired original.id fire.elapsed) holds) fire.faults
      rcases List.mem_cons.mp attempt with rfl | later
      · exact delivers.1 _ post
      · refine ih ?_ later
        rw [firing, if_pos pending]
        exact delivers.2
    next => exact ih holds attempt

end

/-! ### Sender and receiver -/

section

variable (service : WebhooksService) (webhook : Webhook)
  (eventType : WebhookEventType) (payload : Json)

theorem payload_shorter (delivery : WebhookDelivery) :
    delivery.payload.stringify.length < (service.deliveryBody delivery).stringify.length := by
  exact length_member_lt (List.mem_cons_of_mem _ List.mem_cons_self)

theorem validates_iff (world : World) (url : String) :
    let request := service.deliveryRequest url (newDelivery service eventType payload world webhook)
    payload.stringify ≠ request.body.stringify ∧ (Validates service request webhook.secret ↔
        service.hmac webhook.secret payload.stringify =
          service.hmac webhook.secret request.body.stringify) := by
  constructor
  · intro same
    exact absurd (congrArg String.length same)
      (payload_shorter service (newDelivery service eventType payload world webhook)).ne
  · constructor
    · rintro ⟨signature, header, valid⟩
      cases (Option.some.inj header : generateSignature .. = signature)
      rw [generateSignature, validateSignature_hex] at valid
      exact of_decide_eq_true (Except.ok.inj valid)
    · intro same
      refine ⟨_, rfl, ?_⟩
      show service.validateSignature _ (generateSignature ..) _ = _
      simp_all [generateSignature, validateSignature_hex]

variable (faults : List (Option DeliveryError)) (world : World) (fires : List Firing)

theorem holds_scheduled :
    Holds (newDelivery service eventType payload world webhook)
      (afterScheduling service webhook eventType payload faults world) := by
  rw [afterScheduling, exec_scheduleDelivery]
  exact ⟨_, Table.row_save_self _ _, rfl, rfl, rfl, rfl, rfl⟩

/-- The signature of a POST validates iff two texts that are never the same
have one digest; and another signature is turned away, not thrown at, iff it
decodes to 32 bytes. -/
theorem signatures_agree_iff :
    (∀ performed ∈ attempts service world.newId
        (afterScheduling service webhook eventType payload faults world) fires,
      ∀ request threw, (Op.post request, threw) ∈ performed →
        payload.stringify ≠ request.body.stringify ∧ (Validates service request webhook.secret ↔
            service.hmac webhook.secret payload.stringify =
              service.hmac webhook.secret request.body.stringify)) ∧
      ∀ text signature secret, hexBytes signature.toList ≠
          hexBytes (hex (service.hmac secret text)) →
        (service.validateSignature text signature secret = .ok false ↔
          (hexBytes signature.toList).length = 32) := by
  constructor
  · intro performed attempt request threw post
    obtain ⟨url, rfl⟩ := posted
      (holds_scheduled service webhook eventType payload faults world) fires attempt post
    exact validates_iff service webhook eventType payload world url
  · exact fun text signature secret other => validateSignature_rejects_iff service other

end

/-! ### A delivery and a forged signature -/

/-- HMAC-SHA-256 of the payload `{}` and of the body that carries it. -/
def deliveryHmac (secret text : String) : Digest :=
  if secret = "0123456789abcdef0123456789abcdef" then
    if text = "\x7b\x7d" then
      0xb326604c0dc7364c8b688556189c0a510e5150cd4628736be814c7c9898f899d
    else if text = "\x7b\"event\":\"order.created\",\"data\":\x7b\x7d," ++
        "\"timestamp\":\"2023-11-14T22:13:20.000Z\"," ++
        "\"delivery_id\":\"3e0f1c52-8b0d-4a52-9c39-6d8f2b1a7e04\"\x7d" then
      0x7cb44d7bd3acd6c8d5514f6e452b12635d58ec595beec7b025e4e1b643fcf721
    else 0
  else 0

def signingService : WebhooksService where
  hmac := deliveryHmac
  uuid _ := "3e0f1c52-8b0d-4a52-9c39-6d8f2b1a7e04"

/-- The attempts of a delivery, of which one is made. -/
def sampleAttempts : List (List (Op × Bool)) := attempts signingService sampleWorld.newId
    (afterScheduling signingService sampleWebhook .orderCreated (.object []) []
      sampleWorld) [⟨0, []⟩]

theorem sample_posted : ∃ performed ∈ sampleAttempts,
    ∃ request, (Op.post request, false) ∈ performed := by
  have posts : postsOf sampleAttempts.flatten = [false] := by decide
  obtain ⟨⟨op, threw⟩, member, isPost⟩ := List.mem_filterMap.mp
    (posts ▸ List.mem_singleton_self false)
  obtain ⟨performed, attempt, post⟩ := List.mem_flatten.mp member
  cases op with
  | post request => grind
  | _ => cases isPost

/-- A forged signature of the right length. -/
theorem forged_rejected :
    (∃ performed ∈ sampleAttempts, ∃ request, (Op.post request, false) ∈ performed ∧
        (Json.object []).stringify ≠ request.body.stringify) ∧ signingService.validateSignature "{}"
        (String.ofList (hex 0)) sampleWebhook.secret = .ok false := by
  have agree := signatures_agree_iff signingService sampleWebhook .orderCreated
    (.object []) [] sampleWorld [⟨0, []⟩]
  obtain ⟨performed, attempt, request, post⟩ := sample_posted
  exact ⟨⟨performed, attempt, request, post, (agree.1 performed attempt request false post).1⟩,
    (agree.2 _ _ _ (by decide)).mpr (by decide)⟩

/-- The receiver turns the genuine POST away, and the check throws at the
empty signature. -/
theorem genuine_rejected :
    (∃ performed ∈ sampleAttempts, ∃ request, (Op.post request, false) ∈ performed ∧
        ¬ Validates signingService request sampleWebhook.secret) ∧
      (signingService.validateSignature "{}" "" sampleWebhook.secret).isOk = false := by
  refine ⟨?_, by decide⟩
  obtain ⟨performed, attempt, request, post⟩ := sample_posted
  refine ⟨performed, attempt, request, post, ?_⟩
  obtain ⟨url, rfl⟩ := posted (holds_scheduled signingService sampleWebhook
    .orderCreated (.object []) [] sampleWorld) _ attempt post
  rw [(validates_iff signingService sampleWebhook .orderCreated (.object []) sampleWorld url).2]
  show ¬ signingService.hmac _ _ = signingService.hmac _ (signingService.deliveryBody _).stringify
  decide

end MarketX.OutgoingWebhooks
