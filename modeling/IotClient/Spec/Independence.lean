import IotClient.Spec.Twins

namespace IotClient.Client

/-! ## Sessions that do not depend on earlier ones -/

/-- The user id can be read, and no packet ends before its packet identifier. -/
structure Plain (sign : CharSign) (conf : Config) (replies : Replies) : Prop where
  userId : ∃ userId, conf.identity.getUserId sign = .ok userId
  complete : ∀ reply ∈ replies.reads, reply.Complete

end IotClient.Client
