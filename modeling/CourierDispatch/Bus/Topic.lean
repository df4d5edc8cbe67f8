/-!
# Topics, events and subjects

The names on which the three services agree.
-/

namespace CourierDispatch.Topic

/-- Announcements of orders. -/
def orders : String := "orders.v1"

/-- What services found out about an order. -/
def orderValidations : String := "order_validations.v1"

/-- Where couriers were last seen. -/
def courierPositions : String := "courier_latest_positions.v1"

/-- The event of a new order. -/
def orderCreated : String := "created"

/-- The event of an order whose validation is complete. -/
def orderUpdated : String := "updated"

/-- The name under which the courier service reports. -/
def courierService : String := "courier"

/-- The subject under which the schema of a topic's values is registered. -/
def valueSubject (topic : String) : String := topic ++ "-value"

end CourierDispatch.Topic
