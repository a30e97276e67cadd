import GridStore.Sql
import GridStore.Models
import GridStore.Location.Attribute
import GridStore.Location.RoundTrip
import GridStore.Location.Delete
import GridStore.Fetch
import GridStore.Tenant
import GridStore.Schema
import GridStore.RestApi
