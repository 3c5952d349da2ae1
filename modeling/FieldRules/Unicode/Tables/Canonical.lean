import FieldRules.Unicode.Packed

/-!
Canonical equivalence: decompositions, their inverse, and combining classes.
-/

namespace FieldRules.Unicode.Tables

/-- Runs of characters that are canonically another single character. -/
def singletons : Packed where
  keyBits := 21
  width := 64
  perRow := 5
  size := 1026
  rows := #[
    0x2dc0070e003870000ec006fc0037e000ae4006e800374000c4c0068600343000c000068200340,
    0xf3003ef201f79000ebc03eee01f77000eb803eea01f75000eb403ee601f73000eb003ee201f71,
    0xe2003f9201fc9000ee403f7c01fbe000e1803f7601fbb000f3803efa01f7d000f3403ef601f7b,
    0xe3803fd601feb000ec003fc601fe3000e2803fb601fdb000e4003fa601fd3000e2403f9601fcb,
    0x2d003ffa01ffd000e3c03ff601ffb000e3003ff201ff900018003fde01fef000e1403fdc01fee,
    0xc0200465402329000314042560212b00012c042540212a000ea40424c021260080080400202000,
    0x1bb441f2080f9040233201f2060f903023b281f2040f902019bd01f2020f9010231201f2000f900,
    0x165441f2120f909027e701f2100f908027e701f20e0f907014f941f20c0f9060138c81f20a0f905,
    0x1d9a41f21c0f90e0187d81f21a0f90d0165201f2180f90c01561c1f2160f90b0247441f2140f90a,
    0x2423c1f2260f9130223e01f2240f912021ee81f2220f9110218fc1f2200f91001fe141f21e0f90f,
    0x210f41f2300f91801cf781f22e0f91701c3641f22c0f91601b46c1f22a0f91501a8081f2280f914,
    0x1ac101f23a0f91d014dd41f2380f91c013a081f2360f91b0267c41f2340f91a0245a81f2320f919,
    0x1bfac1f2440f9220175401f2420f9210278781f2400f9200218b41f23e0f91f01c86c1f23c0f91e,
    0x2207c1f24e0f9270207601f24c0f926018b241f24a0f9250225901f2480f9240217341f2460f923,
    0x243381f2580f92c01cbf01f2560f92b01b5a81f2540f92a019c5c1f2520f929017b281f2500f928,
    0x1ab4c1f2620f9310193101f2600f930014b781f25e0f92f0146dc1f25c0f92e013e181f25a0f92d,
    0x219701f26c0f9360218181f26a0f9350200041f2680f93401db9c1f2660f93301c8401f2640f932,
    0x1e2301f2760f93b0277e81f2740f93a026dbc1f2720f939025cc81f2700f9380237bc1f26e0f937,
    0x279fc1f2800f940024c101f27e0f93f020f241f27c0f93e01f6801f27a0f93d01e5fc1f2780f93c,
    0x201f81f28a0f94501f1801f2880f944017c101f2860f94301637c1f2840f942022b581f2820f941,
    0x163601f2940f94a025bdc1f2920f9490233081f2900f94801e3281f28e0f94701c9881f28c0f946,
    0x1f4bc1f29e0f94f01bc3c1f29c0f94e01b7681f29a0f94d01a84c1f2980f94c0171881f2960f94b,
    0x147701f2a80f95402022c1f2a60f953014b481f2a40f95202592c1f2a20f95101f8dc1f2a00f950,
    0x259d41f2b20f959020fc41f2b00f95801f6f81f2ae0f95701e8701f2ac0f9560147301f2aa0f955,
    0x138e41f2bc0f95e022bf81f2ba0f95d01a8081f2b80f95c018b3c1f2b60f95b022e001f2b40f95a,
    0x14c5c1f2c60f96301d5c01f2c40f96201ce1c1f2c20f9610180481f2c00f960016f9c1f2be0f95f,
    0x1b3301f2d00f9680138341f2ce0f967017ea41f2cc0f966013efc1f2ca0f96501e3ec1f2c80f964,
    0x1dc041f2da0f96d0161781f2d80f96c014f0c1f2d60f96b01f4881f2d40f96a0195e01f2d20f969,
    0x1b2201f2e40f972023ec01f2e20f97101aee81f2e00f970022aa81f2de0f96f0211241f2dc0f96e,
    0x13ab81f2ee0f97701d5941f2ec0f976018e801f2ea0f975020b941f2e80f974018bf81f2e60f973,
    0x209bc1f2f80f97c01f39c1f2f60f97b01a2041f2f40f97a0147241f2f20f9790145a41f2f00f978,
    0x165cc1f3020f9810151081f3000f980014bd41f2fe0f97f02473c1f2fc0f97e022b481f2fa0f97d,
    0x256b41f30c0f98601e4a81f30a0f98501bff81f3080f9840197141f3060f983017bb01f3040f982,
    0x19b181f3160f98b014a6c1f3140f98a027b381f3120f989027a5c1f3100f9880269a81f30e0f987,
    0x188001f3200f9900186401f31e0f98f0179d01f31c0f98e023d881f31a0f98d01addc1f3180f98c,
    0x1e7281f32a0f99501d2241f3280f99401c5241f3260f99301bc8c1f3240f9920192681f3220f991,
    0x2408c1f3340f99a0213b81f3320f999023c981f3300f9980201bc1f32e0f99701f7d01f32c0f996,
    0x1c3201f33e0f99f0152f41f33c0f99e014a8c1f33a0f99d01485c1f3380f99c024d281f3360f99b,
    0x18dec1f3480f9a4017fd41f3460f9a3017b241f3440f9a2022aa81f3420f9a10223081f3400f9a0,
    0x15be41f3520f9a9013b901f3500f9a801cdd41f34e0f9a701f0f81f34c0f9a601aeb81f34a0f9a5,
    0x1d1a41f35c0f9ae01cec81f35a0f9ad0180701f3580f9ac0176e81f3560f9ab016f9c1f3540f9aa,
    0x25d201f3660f9b3025bd81f3640f9b20248d01f3620f9b10201181f3600f9b001fe681f35e0f9af,
    0x25ae01f3700f9b80246d01f36e0f9b701e6b81f36c0f9b6013e2c1f36a0f9b50260601f3680f9b4,
    0x170fc1f37a0f9bd016fb81f3780f9bc0143681f3760f9bb013a181f3740f9ba0183841f3720f9b9,
    0x213f01f3840f9c201d9081f3820f9c101c7381f3800f9c001a8081f37e0f9bf0196641f37c0f9be,
    0x14a241f38e0f9c70258b81f38c0f9c6019a201f38a0f9c5027e341f3880f9c40241f01f3860f9c3,
    0x1d0241f3980f9cc01ba701f3960f9cb01b5041f3940f9ca019fcc1f3920f9c9019dec1f3900f9c8,
    0x145b41f3a20f9d10261781f3a00f9d001f4401f39e0f9cf01e1ac1f39c0f9ce01d5641f39a0f9cd,
    0x1b7a81f3ac0f9d60174641f3aa0f9d50140ac1f3a80f9d40259e01f3a60f9d30188b81f3a40f9d2,
    0x1ce1c1f3b60f9db01a05c1f3b40f9da0185101f3b20f9d9017e2c1f3b00f9d8023ca81f3ae0f9d7,
    0x1984c1f3c00f9e00171941f3be0f9df01503c1f3bc0f9de0148a41f3ba0f9dd025a181f3b80f9dc,
    0x1d7881f3ca0f9e501d0181f3c80f9e401b3941f3c60f9e301a2a01f3c40f9e2019d381f3c20f9e1,
    0x25b881f3d40f9ea0247301f3d20f9e90223841f3d00f9e802233c1f3ce0f9e701fde41f3cc0f9e6,
    0x1d2601f3de0f9ef01c7401f3dc0f9ee0150741f3da0f9ed01bae81f3d80f9ec014cfc1f3d60f9eb,
    0x19e5c1f3e80f9f4027a7c1f3e60f9f302715c1f3e40f9f2025a8c1f3e20f9f10217e81f3e00f9f0,
    0x1f2481f3f20f9f901ec801f3f00f9f801eb2c1f3ee0f9f70207a01f3ec0f9f601b72c1f3ea0f9f5,
    0x20cd81f3fc0f9fe013b001f3fa0f9fd022d601f3f80f9fc01c2641f3f60f9fb01cb001f3f40f9fa,
    0x1f3581f4060fa03018b4c1f4040fa02017a981f4020fa0101481c1f4000fa000148e81f3fe0f9ff,
    0x221301f4100fa08023cec1f40e0fa07019ad01f40c0fa0601b4781f40a0fa05016e141f4080fa04,
    0x157001f41a0fa0d0145001f4180fa0c017b4c1f4160fa0b02262c1f4140fa0a0259341f4120fa09,
    0x1db281f42e0fa1701cca81f42c0fa160147781f42a0fa150199d01f4240fa120161681f4200fa10,
    0x25d581f4380fa1c01e63c1f4360fa1b01e5941f4340fa1a01e5781f4320fa1901e4f01f4300fa18,
    0x240e01f44a0fa25022be01f4440fa220218481f4400fa2001fef41f43c0fa1e01f2f81f43a0fa1d,
    0x276d01f45a0fa2d0264a01f4580fa2c0263f01f4560fa2b0263bc1f4540fa2a0243f41f44c0fa26,
    0x145341f4640fa3201439c1f4620fa31013eb81f4600fa30025adc1f45e0fa2f0243781f45c0fa2e,
    0x158181f46e0fa370156741f46c0fa36014d441f46a0fa35014b901f4680fa34014b241f4660fa33,
    0x171b81f4780fa3c0171901f4760fa3b0162a01f4740fa3a0161001f4720fa390159a01f4700fa38,
    0x1953c1f4820fa410187c81f4800fa400186381f47e0fa3f0185a01f47c0fa3e0182501f47a0fa3d,
    0x1b8681f48c0fa4601b5dc1f48a0fa4501a2141f4880fa44019a441f4860fa430197881f4840fa42,
    0x1e2441f4960fa4b01d0881f4940fa4a01c8ac1f4920fa4901c5b81f4900fa4801bc881f48e0fa47,
    0x1e5581f4a00fa5001e5401f49e0fa4f01e5201f49c0fa4e01e5241f49a0fa4d01e4f81f4980fa4c,
    0x1ef001f4ac0fa5601ea041f4aa0fa5501e9001f4a80fa5401e6341f4a60fa5201e5741f4a20fa51,
    0x200141f4b60fa5b01fdc81f4b40fa5a01f9041f4b20fa5901f8241f4b00fa5801f7d01f4ae0fa57,
    0x224401f4c00fa6002115c1f4be0fa5f0209e41f4bc0fa5e0209e41f4ba0fa5d0207b41f4b80fa5c,
    0x234201f4ca0fa6502334c1f4c80fa64022ce41f4c60fa63022c041f4c40fa620226581f4c20fa61,
    0x260ec1f4d40fa6a025ffc1f4d20fa69025b8c1f4d00fa680240e01f4ce0fa67023ed81f4cc0fa66,
    0x146d41f4e20fa710138981f4e00fa700208601f4da0fa6d090bb81f4d80fa6c0181d41f4d60fa6b,
    0x14b1c1f4ec0fa760146001f4ea0fa750145141f4e80fa74013e001f4e60fa730145a01f4e40fa72,
    0x157881f4f60fa7b0156641f4f40fa7a0155541f4f20fa790156741f4f00fa78014be81f4ee0fa77,
    0x169881f5000fa800165501f4fe0fa7f0165101f4fc0fa7e0162cc1f4fa0fa7d0161681f4f80fa7c,
    0x17eb41f50a0fa85017da41f5080fa84017b641f5060fa83017b481f5040fa82016ca01f5020fa81,
    0x185801f5140fa8a0186381f5120fa890184201f5100fa880185381f50e0fa870183601f50c0fa86,
    0x191481f51e0fa8f0190701f51c0fa8e018f101f51a0fa8d0188d01f5180fa8c0187c81f5160fa8b,
    0x19d581f5280fa94019c6c1f5260fa93019c5c1f5240fa920199d01f5220fa910195581f5200fa90,
    0x1bb2c1f5320fa9901bb6c1f5300fa9801b5041f52e0fa9701aee81f52c0fa9601ade41f52a0fa95,
    0x1c8d41f53c0fa9e01de9c1f53a0fa9d01c5b81f5380fa9c01c0781f5360fa9b01bc881f5340fa9a,
    0x1d4ec1f5460faa301d4181f5440faa201d1c41f5420faa101cca81f5400faa001cabc1f53e0fa9f,
    0x1dbd01f5500faa801db6c1f54e0faa701db281f54c0faa601d87c1f54a0faa501d8741f5480faa4,
    0x1ef001f55a0faad01eac41f5580faac01e3301f5560faab01dd001f5540faaa01dd281f5520faa9,
    0x200141f5640fab201fcf81f5620fab101f7d01f5600fab001f56c1f55e0faaf01f1ec1f55c0faae,
    0x226181f56e0fab70225041f56c0fab6021de41f56a0fab5020fbc1f5680fab4020d481f5660fab3,
    0x22c041f5780fabc022b2c1f5760fabb022be01f5740faba022afc1f5720fab90226581f5700fab8,
    0x234201f5820fac1022e281f5800fac0022ce41f57e0fabf022bb41f57c0fabe022bf81f57a0fabd,
    0x259f01f58c0fac60249d81f58a0fac50246641f5880fac40241c81f5860fac3023ce01f5840fac2,
    0x2602c1f5960facb025ffc1f5940faca025f6c1f5920fac9025d581f5900fac8025b8c1f58e0fac7,
    0x8a1101f5a00fad008a1281f59e0facf027e701f59c0face026c481f59a0facd0260ec1f5980facc,
    0x949241f5aa0fad50100e41f5a80fad40100601f5a60fad300ee741f5a40fad208cf541f5a20fad1,
    0x138f45f0002f800027e381f5b20fad9027d0c1f5b00fad809fb4c1f5ae0fad70973401f5ac0fad6,
    0x13eb85f00a2f805013d805f0082f8040804885f0062f8030139045f0042f8020138e05f0022f801,
    0x1439c5f0142f80a0142645f0122f8090141e85f0102f8080140085f00e2f807013eec5f00c2f806,
    0x145505f01e2f80f0145345f01c2f80e0818e85f01a2f80d00d2785f0182f80c01433c5f0162f80b,
    0x1459c5f0282f81400d2e45f0262f8130814705f0242f8120145dc5f0222f8110145905f0202f810,
    0x13b305f0322f8190146905f0302f81801465c5f02e2f81708152c5f02c2f8160146345f02a2f815,
    0x1480c5f03c2f81e0147d45f03a2f81d0a477c5f0382f81c0146d45f0362f81b0146b05f0342f81a,
    0x149dc5f0462f8230149c85f0442f8220149185f0422f8210148ec5f0402f82000d37c5f03e2f81f,
    0x14be85f0502f828014b905f04e2f827014b245f04c2f826014b1c5f04a2f82500d4545f0482f824,
    0x14d685f05c2f82e014d445f05a2f82d014d245f0582f82c014c5c5f0562f82b014c145f0542f829,
    0x14dfc5f0662f833014dfc5f0642f832014dfc5f0622f831014df45f0602f830014dcc5f05e2f82f,
    0x82d8c5f0702f838014f7c5f06e2f837014f285f06c2f83601c1c05f06a2f8350828b05f0682f834,
    0x150e05f07a2f83d0152785f0782f83c0150185f0762f83b014fc45f0742f83a014fac5f0722f839,
    0x154405f0842f8420153d85f0822f8410152885f0802f8400151a05f07e2f83f0151205f07c2f83e,
    0x156645f08e2f8470156105f08c2f8460156105f08a2f84501558c5f0882f84401554c5f0862f843,
    0x158185f0982f84c015c585f0962f84b0157085f0942f84a0156cc5f0922f8490156ac5f0902f848,
    0x163b85f0a22f85101481c5f0a02f8500159d05f09e2f84f0159445f09c2f84e015c5c5f09a2f84d,
    0x160c85f0ac2f856015e2c5f0aa2f8550160345f0a82f854015fd05f0a62f853015f385f0a42f852,
    0x163dc5f0b62f85b0163c85f0b42f85a0853905f0b22f8590162b05f0b02f8580160c45f0ae2f857,
    0x85aa05f0c02f8600165885f0be2f85f0164885f0bc2f85e0164685f0ba2f85d0164185f0b82f85c,
    0x167605f0ca2f86501689c5f0c82f86401686c5f0c62f8630167b05f0c42f862085ba85f0c22f861,
    0x16cf85f0d42f86a016c205f0d22f86900dbf05f0d02f86800dbb85f0ce2f8670169985f0cc2f866,
    0x16f9c5f0de2f86f016f605f0dc2f86e016f0c5f0da2f86d0867205f0d82f86c016cf85f0d62f86b,
    0x17d4c5f0e82f8740170185f0e62f873016ffc5f0e42f872086c605f0e22f871016fcc5f0e02f870,
    0x173005f0f22f8790171b85f0f02f8780171805f0ee2f87700de045f0ec2f8760170885f0ea2f875,
    0x175b85f0fc2f87e0877985f0fa2f87d01750c5f0f82f87c0877905f0f62f87b0172345f0f42f87a,
    0x177f45f1082f88400e0bc5f1062f8830177845f1042f8810175f05f1002f8800175ac5f0fe2f87f,
    0x8860c5f1122f88900e1885f1102f8880179a45f10e2f8870178f45f10c2f8860178a05f10a2f885,
    0x17b285f11c2f88e017ad85f11a2f88d017acc5f1182f88c017ac05f1162f88b00e1f05f1142f88a,
    0x208045f1262f893088cc45f1242f892088cc45f1222f891017bf85f1202f8900a8e485f11e2f88f,
    0x987685f1302f89808cae05f12e2f89700e31c5f12c2f896017c885f12a2f895017c885f1282f894,
    0x17f345f13a2f89d017e685f1382f89c00e38c5f1362f89b017dac5f1342f89a017d885f1322f899,
    0xe4705f1442f8a200e4e85f1422f8a10182045f1402f8a0017fe45f13e2f89f017f5c5f13c2f89e,
    0x185305f14e2f8a70185205f14c2f8a601831c5f14a2f8a5089b505f1482f8a40182505f1462f8a3,
    0x186c85f1582f8ac0186385f1562f8ab0185e85f1542f8aa0185305f1522f8a90185385f1502f8a8,
    0x187d85f1622f8b10187c85f1602f8b00187785f15e2f8af0186bc5f15c2f8ae0186905f15a2f8ad,
    0x18b505f16c2f8b6018ac45f16a2f8b50189745f1682f8b401886c5f1662f8b30188405f1642f8b2,
    0x18da05f1762f8bb018bf05f1742f8ba018cf45f1722f8b908ac305f1702f8b8018d405f16e2f8b7,
    0x18f145f1802f8c00190885f17e2f8bf08afc45f17c2f8be018f905f17a2f8bd018e0c5f1782f8bc,
    0x192745f18a2f8c50191f85f1882f8c40191a45f1862f8c300e8b85f1842f8c2018ea45f1822f8c1,
    0x8c0285f1942f8ca0195b05f1922f8c901953c5f1902f8c800e9b05f18e2f8c70191dc5f18c2f8c6,
    0x19a445f19e2f8cf00ec645f19c2f8ce0199245f19a2f8cd019be05f1982f8cc01978c5f1962f8cb,
    0x19c005f1a82f8d40146545f1a62f8d30146485f1a42f8d200eb905f1a22f8d100ec205f1a02f8d0,
    0x19c6c5f1b22f8d9019c5c5f1b02f8d8010f645f1ae2f8d70202b45f1ac2f8d6019a705f1aa2f8d5,
    0xed245f1bc2f8de08cf0c5f1ba2f8dd019d4c5f1b82f8dc019d785f1b62f8db019c845f1b42f8da,
    0x8d1b45f1c62f8e301a2145f1c42f8e201a1485f1c22f8e1019e145f1c02f8e0019fe85f1be2f8df,
    0x1a5085f1d02f8e800ee745f1ce2f8e701a4505f1cc2f8e601a07c5f1ca2f8e501a2385f1c82f8e4,
    0x1ab6c5f1da2f8ed08da8c5f1d82f8ec01aaa05f1d62f8eb01a7a85f1d42f8ea01a68c5f1d22f8e9,
    0xf1385f1e42f8f201ad505f1e22f8f108e29c5f1e02f8f001ac845f1de2f8ef00f0605f1dc2f8ee,
    0x8742c5f1f02f8f808ea345f1ee2f8f701aee85f1ec2f8f501ae7c5f1e82f8f401adc85f1e62f8f3,
    0x1b3345f1fa2f8fd01b2fc5f1f82f8fc08f2f05f1f62f8fb01b1385f1f42f8fa08ebe85f1f22f8f9,
    0x1b5045f2042f90201b5dc5f2022f90101b4f85f2002f90001b4585f1fe2f8ff01b19c5f1fc2f8fe,
    0x1b4d05f20e2f90708f4785f20c2f90601b6145f20a2f90501b5e05f2082f90401b5a45f2062f903,
    0x1bb1c5f2182f90c01bb2c5f2162f90b00f4cc5f2142f90a01b9b85f2122f90901b8bc5f2102f908,
    0x8fe385f2222f91108fd785f2202f91001bdb85f21e2f90f01b7e45f21c2f90e08fb445f21a2f90d,
    0xf6585f22c2f91601c06c5f22a2f91501c0785f2282f91401c0e45f2262f91301bf185f2242f912,
    0x814945f2362f91b01c2b45f2342f91a01c1dc5f2322f91901c1f45f2302f91801c1285f22e2f917,
    0x1c8a05f2402f920090eac5f23e2f91f01c6705f23c2f91e09098c5f23a2f91d01c5145f2382f91c,
    0x1ca545f24a2f92501ca005f2482f9240918205f2462f92301c9405f2442f92201c8d45f2422f921,
    0xfab05f2542f92a01ce2c5f2522f92901cde85f2502f9280920505f24e2f927091cd45f24c2f926,
    0x1d1705f25e2f92f01d11c5f25c2f92e00fae05f25a2f92d00fae05f2582f92c01ce945f2562f92b,
    0x1d4905f2682f93400fc6c5f2662f93301d3285f2642f93201d2145f2622f93101d1c45f2602f930,
    0x8867c5f2722f93901d5c05f2702f9380932485f26e2f93701d4f85f26c2f9360930d85f26a2f935,
    0xfff05f27c2f93e0941105f27a2f93d093ee05f2782f93c093e845f2762f93b01d8405f2742f93a,
    0x944645f2862f9430943c85f2842f9420943cc5f2822f94101dbd05f2802f9400100205f27e2f93f,
    0x100e45f2922f94901dd285f2902f94801dc7c5f28e2f94701dc785f28c2f9450944cc5f2882f944,
    0x1e1385f29c2f94e0950745f29a2f94d0102585f2982f94c0101185f2962f94b01de2c5f2942f94a,
    0x1e5585f2a62f9530958985f2a42f95201038c5f2a22f95101e3305f2a02f95001e2305f29e2f94f,
    0x104bc5f2b02f95801e7ac5f2ae2f95701e63c5f2ac2f956095b145f2aa2f955095a685f2a82f954,
    0x96a9c5f2ba2f95d0965f05f2b82f95c01e93c5f2b62f95b01e9285f2b42f95a01e9005f2b22f959,
    0x1ef185f2c42f962096eac5f2c22f9610108085f2c02f96001ebb85f2be2f95f096a9c5f2bc2f95e,
    0x10a805f2ce2f96701f3485f2cc2f9660972005f2ca2f96501089c5f2c82f96401ef245f2c62f963,
    0x1f58c5f2d82f96c097e185f2d62f96b01f4005f2d42f96a01f38c5f2d22f96901f3a05f2d02f968,
    0x10cd05f2e22f97101f9145f2e02f97001f8085f2de2f96f01f71c5f2dc2f96e010c045f2da2f96d,
    0x1fde85f2ec2f976098b645f2ea2f975010d645f2e82f97409891c5f2e62f9730988a05f2e42f972,
    0x993685f2f62f97b0200145f2f42f97a01ffe85f2f22f97901fe545f2f02f978098cf85f2ee2f977,
    0x8cd7c5f3002f9800201c05f2fe2f97f0996a05f2fc2f97e0201805f2fa2f97d09948c5f2f82f97c,
    0x204f85f30a2f98501102c5f3082f98402040c5f3062f9830202c85f3042f982010f545f3022f981,
    0x8ce705f3142f98a08ce4c5f3122f989099ed45f3102f988099e9c5f30e2f987016ad45f30c2f986,
    0x20a445f31e2f98f0111ac5f31c2f98e023e785f31a2f98d0208105f3182f98c0208045f3162f98b,
    0x20acc5f3282f994020ac45f3262f993014acc5f3242f992020a745f3222f991020a2c5f3202f990,
    0x20c745f3322f999020b945f3302f99809acf05f32e2f997020b985f32c2f996020af45f32a2f995,
    0x20f9c5f33c2f99e020ef45f33a2f99d020c8c5f3382f99c020eb45f3362f99b020d8c5f3342f99a,
    0x20f705f3462f9a3020f305f3442f9a2020f285f3422f9a1020d4c5f3402f9a002115c5f33e2f99f,
    0x213c45f3502f9a80114ac5f34e2f9a709b3545f34c2f9a609b5ac5f34a2f9a509b0d85f3482f9a4,
    0x9bcb05f35a2f9ad0215905f3582f9ac09cf285f3562f9ab0214585f3542f9aa0213cc5f3522f9a9,
    0x115ac5f3642f9b209c3485f3622f9b109bec45f3602f9b00115845f35e2f9af0115745f35c2f9ae,
    0x21aa45f36e2f9b70219a45f36c2f9b602199c5f36a2f9b50219705f3682f9b40219405f3662f9b3,
    0x21ca05f3782f9bc021de45f3762f9bb021b885f3742f9ba021c385f3722f9b9021a205f3702f9b8,
    0x220045f3822f9c1021f845f3802f9c001175c5f37e2f9bf021e185f37c2f9be021dac5f37a2f9bd,
    0x2235c5f38c2f9c609d99c5f38a2f9c502218c5f3882f9c40221805f3862f9c30117e45f3842f9c2,
    0x9e2b85f3962f9cb00d2ec5f3942f9ca0223e85f3922f9c90118d45f3902f9c80223785f38e2f9c7,
    0x22bb45f3a02f9d0022a805f39e2f9cf011b1c5f39c2f9ce011af85f39a2f9cd09e5985f3982f9cc,
    0x233045f3aa2f9d50232ac5f3a82f9d409f2a05f3a62f9d30231545f3a42f9d2022e285f3a22f9d1,
    0x2372c5f3b42f9da0820105f3b22f9d909fcbc5f3b02f9d80235dc5f3ae2f9d702346c5f3ac2f9d6,
    0x23ce05f3be2f9df023b505f3bc2f9de0823785f3ba2f9dd0237c05f3b82f9dc0236f05f3b62f9db,
    0x244445f3c82f9e40243c45f3c62f9e30242505f3c42f9e20a17b45f3c22f9e10a17485f3c02f9e0,
    0x249f05f3d42f9ea024b5c5f3d22f9e80248e05f3ce2f9e702446c5f3cc2f9e60a1cb85f3ca2f9e5,
    0x126545f3de2f9ef02562c5f3dc2f9ee0a2fe85f3da2f9ed0250545f3d82f9ec024fe45f3d62f9eb,
    0x176c85f3e82f9f4025b0c5f3e62f9f30127985f3e42f9f20a35dc5f3e22f9f10256dc5f3e02f9f0,
    0x129d85f3f22f9f90129b85f3f02f9f80a48685f3ee2f9f70a45145f3ec2f9f6025c8c5f3ea2f9f5,
    0x2602c5f3fc2f9fe0a52585f3fa2f9fd012ac85f3f82f9fc0a50285f3f62f9fb025f805f3f42f9fa,
    0x12ccc5f4062fa030263885f4042fa020a56d85f4022fa010260a45f4002fa0002602c5f3fe2f9ff,
    0x12f385f4102fa080267f85f40e2fa070267085f40c2fa0602669c5f40a2fa050264a45f4082fa04,
    0x133385f41a2fa0d0273f45f4182fa0c0271005f4162fa0b026c485f4142fa0a0a6cc05f4122fa09,
    0xa84145f4242fa120133e05f4222fa110a83385f4202fa1002759c5f41e2fa0f0133b45f41c2fa0e,
    0x27be45f42e2fa170135585f42c2fa16027aec5f42a2fa150a8a445f4282fa140a88385f4262fa13,
    0x27cec5f4382fa1c027c585f4362fa1b027c3c5f4342fa1a027c145f4322fa19027bf85f4302fa18,
    0xa98005f43a2fa1d]

/-- Characters that are canonically a pair, by the composed character. -/
def pairs : Packed where
  keyBits := 21
  width := 63
  perRow := 5
  size := 1026
  rows := #[
    0xc2000082000c400181800104001860030200020800308006020004100060800c0000082000c0,
    0xc080008a000ca001808001140019200300000228003200064e0004300063800c2800082000c5,
    0xc2000092000cf001810001240019c0030100024800334006000004900066000c200008a000cb,
    0xc0c0009e000d50018100013c001a8003010002780034c006000004f00069000c0c0009c000d1,
    0xc20000aa000dc00181000154001b6003010002a80036800600000550006c800c200009e000d6,
    0xc0c000c2000e300181000184001c40030100030800384006000006100070000c04000b2000dd,
    0xc04000ca000e900180000194001d0003270003180039c006140006100072800c20000c2000e4,
    0xc08000d2000ee001808001a4001da00300000348003b0006100006500075800c08000ca000ea,
    0xc08000de000f4001808001bc001e600300000378003c8006060006e00078800c20000d2000ef,
    0xc08000ea000fb001808001d4001f4003000003a8003e4006100006f0007b000c0c000de000f5,
    0xc10000c2001010018200010400200003080003c8003fc00602000790007e800c20000ea000fc,
    0xc040008600106001940001840020a00328000208004100060c0006100081800c180008200102,
    0xc1c000c60010b0018380010c002140030200031800424006040004300084000c04000c600107,
    0xc100008a00112001860001900021e0030c00022000438006180006300086800c30000860010c,
    0xc1c000ca00117001838001140022c00306000328004540060c000450008a000c10000ca00113,
    0xc080008e0011c00186000194002360030c0002280046800650000650008c800ca00008a00118,
    0xc1c000ce001210018380011c00240003060003380047c0060c000470008f000c08000ce0011d,
    0xc0c0009200128001810001a00024a00302000240004900064e0006700091800c9c0008e00122,
    0xc18000d20012d001830001240025800304000348004ac006080004900095000c0c000d200129,
    0xc08000d400135001810001280026800307000248004c0006500006900097800ca0000920012e,
    0xc9c000980013b001808001b00027400301000260004e40064e0006b0009b800c9c0009600136,
    0xc04000dc0014400180800138002860030c000360004f8006180004c0009e800c9c000d80013c,
    0xc100009e0014c001860001b8002900030c0002700051c0064e0006e000a3000c9c0009c00145,
    0xc2c000de001510018580013c002a0003060003780053c0060c0004f000a7000c10000de0014d,
    0xc30000a400158001938001c8002ae00327000290005580060200072000aa800c04000a400154,
    0xc08000e60015d0018100014c002b8003010003980056c0060200053000ad000c30000e400159,
    0xc9c000a800162001860001cc002c20030c000298005800064e00073000af800c9c000a60015e,
    0xc0c000ea0016900181800154002d00030c0003a0005940061800054000b2000c9c000e800163,
    0xc28000aa0016e001830001d4002da003060002a8005b00060800075000b5800c10000aa0016a,
    0xca0000ea0017300194000154002e40030b0003a8005c40061600055000b8000c28000ea0016f,
    0xc20000b200178001810001e4002ee003020002c8005d80060400077000ba800c08000ae00174,
    0xc30000b40017d001838001e8002f8003070002d0005ec006020007a000bd000c04000b400179,
    0xc6c000ea001b00018d8001540035e0031b00037800684006360004f000d0000c30000f40017e,
    0xc300009e001d1001860001a4003a00030c0002480073c0061800061000e7000c3000082001cd,
    0xc10001f8001d600182000370003aa0030c0003a8007500061800055000e9800c30000de001d2,
    0xc00001b8001db001860003f0003b40030c0006e00076400602000fc000ec000c04001b8001d7,
    0xc100044e001e100182000898003c0003040007200077c00608000c4000ef000c00001f8001dc,
    0xc3000096001e80018600019c003ce0030c0002380079800608000e6000f1800c100018c001e2,
    0xc10003d6001ed001820007a8003d800328000378007ac006500004f000f5000c30000d6001e9,
    0xc04000ce001f50018080011c003e80030c000350007c00061800292000f7800c300036e001ee,
    0xc040018c001fc00180800394003f600301000628007e8006000006e000fc800c000009c001f8,
    0xc3c000c2002010018780010400400003010007c0007fc00602000d8000ff000c04001cc001fd,
    0xc440008a00206001878001940040a0030f00022800810006220006100101800c440008200202,
    0xc44000d20020b00188800124004140030f000348008240061e0004900104000c44000ca00207,
    0xc3c000a400210001888001bc0041e00311000278008380061e0006f00106800c3c0009e0020c,
    0xc3c000ea002150018780015400428003110003900084c006220005200109000c3c000e400211,
    0xc98000a80021a001930001cc00432003260002980086000622000750010b800c44000aa00216,
    0xc1c000c200227001838001040044c0030c0003400087c00618000480010f000c98000e80021b,
    0xc10001aa0022c001820003d800456003040006b0008a80064e0006500114800c9c0008a00228,
    0xc100045e00231001820008b80046000307000378008bc0060e0004f00117000c10001ea0022d,
    0xc040072200386001808002a00070a0030100184000d10006080007900119800c10000b200232,
    0xc040074a0038e00180800e7c0071800301001cc800e280060200397001c4800c040072a00388,
    0xc0400762003ac00184000e940075600308001cc800ea800602003ca001c8000c04007520038f,
    0xc2000772003ca00180800f2c0076000301001dc800ebc00602003b7001d7000c040076a003ad,
    0xc04007a4003d300180800f240079c00301001e2800f3400602003bf001e6000c200078a003cb,
    0xc200080c004070018080104c00806003080020a801004006000041500200000c20007a4003d4,
    0xc18008700043900183001060008320030600211801038006000041800206800c04008340040c,
    0xc04008740045c00184001158008ae003010021980114c006100043500228800c000086a00450,
    0xc180082c004c1001878011d4008ee0030f0023a0011d80060c004430022f000c00008700045d,
    0xc2000860004d300184001040009a400306002180013440060c0041000268000c180086c004c2,
    0xc200082c004dc00184001364009b6003080026c0013680060c004350026b800c180082a004d6,
    0xc1000870004e300182001060009c4003080021b80137c00610004170026f000c200086c004dd,
    0xc20009d0004ea001840010f8009ce003080020f001398006100043800272800c2000830004e4,
    0xc1000886004ef0018200108c009dc00308002268013b4006100042d00276000c20009d2004eb,
    0xc200084e004f40018580110c009e60030b002118013c8006100044300278800c2000846004f0,
    0x195000c4e006230032980189c00c4400308002258013e4006100042b0027c000c200088e004f5,
    0x195000d82006c20032a001b5400d80006540032500189800caa006270031280195000c9000624,
    0x24f00122a009580049e0024cc012680093c004980024c401278009280049480195000da4006d3,
    0x24f0012440095d0049e002484012b80093c0048e00256c0127800917004ad0024f00122c00959,
    0x26f001342009dc004eb80271c01398009be004e380272c012780092f004af8024f0012560095e,
    0x28f00142c00a590051e0028e00146c00a3c005190028cc01378009af004ef8026f001344009dd,
    0x2cf80168e00b4b005ab002d1c0169000a3c005158029780147800a1c0052d8028f00142e00a5a,
    0x2ef80178c00bca005eb802e480172800b3c00591002d740167800b21005ae002d5c0168e00b4c,
    0x33540198c00cc70066a8032fc0198000c5600623003120017ae00bc6005e6002ef80178e00bcb,
    0x34f801a8e00d4b0069f00351801a9400cd50066500332c0198400cc6006650033580198c00cc8,
    0x377c01bb200dde006e500377001bba00dcf006ec80377001b9400dd9006ed00355c01a8c00d4c,
    0x3edc01eb600f5c007db803d5801eae00fb7007a8803d4801f6e00f4c007a6803edc01e8400f43,
    0x3e0001f6600f78007c0003ec801eec00f74007b8803dd401ee400f71007b9803ed401e8000f69,
    0x3edc01f4c00fa7007db803e8401f4400fb7007ce003e7401f6e00f92007c9803e0001ee200f81,
    0x6cd40360e01b0800d9a806c140360c0102e0081280409801f6a00f90007dc803edc01f5600fac,
    0x6cd40367401b3b00d9a806c440362401b3500d86806c380366a01b0b00d86006cd40361201b0a,
    0xc940008201e0000d9a806d080368601b3500d9f806d040366a01b3e00da0006cd40367801b3d,
    0xc8c000c401e050019180010803c08003070003100780c0060e0004200f01000c94000c201e01,
    0xc1c0008801e0a0018080039c03c120030100063807820006620006200f03800cc40008401e06,
    0xcc4000c801e0f0019880011003c1c0032300032007834006460004400f06000c1c000c801e0b,
    0xc000022401e140019680019003c260032d000220078480064e0006400f08800c9c0008801e10,
    0xcb4000ca01e190019680011403c30003010008980785c006020011200f0b000c000022601e15,
    0xc1c0008c01e1e001830008a403c3a0030600114007870006600006500f0d800cc00008a01e1a,
    0xc1c000d001e230018380012003c440030400033807884006080004700f10000c1c000cc01e1f,
    0xc9c0009001e28001840001a003c4e0030800024007898006460006800f12800c8c0009001e24,
    0xcc0000d201e2d0019800012403c580032e000340078ac0065c0004800f15000c9c000d001e29,
    0xc8c0009601e32001808001ac03c6200301000258078c000602000ef00f17800c040019e01e2e,
    0xc8c000d801e370019180013003c6c00331000358078d4006620004b00f1a000c8c000d601e33,
    0xcb40009801e3c001988001b003c7600331000260078e80060801e3700f1c800c1003c6c01e38,
    0xc1c000da01e410018380013403c8000301000368078fc006020004d00f1f000cb4000d801e3d,
    0xc8c0009c01e46001838001b803c8a0030700027007910006460006d00f21800c8c0009a01e42,
    0xcb4000dc01e4b0019680013803c940033100037007924006620004e00f24000c8c000dc01e47,
    0xc000029801e50001840003d403c9e003080006a80793800602000f500f26800c04001aa01e4c,
    0xc04000e001e550018080014003ca800301000a680794c006020014c00f29000c000029a01e51,
    0xc8c000a401e5a001838001c803cb200307000290079600060e0007000f2b800c1c000a001e56,
    0xcc4000e401e5f0019880014803cbc0030400f2d8079740060801e5a00f2e000c8c000e401e5b,
    0xc1c002b401e64001918001cc03cc600323000298079880060e0007300f30800c1c000a601e60,
    0xc1c03cc601e690018380798803cd000307000b080799c0060e0016000f33000c1c002b601e65,
    0xcc4000a801e6e001918001d003cda003230002a0079b00060e0007400f35800c1c000a801e6a,
    0xc90000ea01e730019200015403ce40032d0003a0079c40065a0005400f38000cc4000e801e6f,
    0xc04002d001e78001968001d403cee0032d0002a8079d8006600007500f3a800cc0000aa01e74,
    0xc0c000ec01e7d0018180015803cf800308000b58079ec006100016a00f3d000c04002d201e79,
    0xc04000ae01e82001800001dc03d02003000002b807a00006460007600f3f800c8c000ac01e7e,
    0xc1c000ee01e870018380015c03d0c003080003b807a14006100005700f42000c04000ee01e83,
    0xc20000b001e8c001838001e003d16003070002c007a28006460007700f44800c8c000ae01e88,
    0xc08000f401e910018100016803d20003070003c807a3c0060e0005900f47000c20000f001e8d,
    0xcc4000d001e96001988001e803d2a003310002d007a50006460007a00f49800c8c000b401e92,
    0xc8c0008201ea0001838005fc03d360030a0003c807a64006140007700f4c000c20000e801e97,
    0xc04001c401ea50018080030803d480030900030807a8c006120004100f51000c8c000c201ea1,
    0xc0c0018401eaa0018480038803d520030900061007aa000600000e200f53800c000018401ea6,
    0xc040020601eaf0018080040803d5c0030200f50807ab40060401ea000f56000c0c001c401eab,
    0xc0c0020401eb40018480040c03d660030900081007ac8006000010300f58800c000020401eb0,
    0xc8c000ca01eb90019180011403d700030600f50807adc0060c01ea000f5b000c0c0020601eb5,
    0xc040019401ebe0018180019403d7a0030300022807af0006120006500f5d800c240008a01eba,
    0xc24001d401ec30018480032803d840030000075007b0400600000ca00f60000c04001d401ebf,
    0xc240009201ec800181007ae403d8e0030200f5c007b1800606000ea00f62800c0c0019401ec4,
    0xc8c000de01ecd0019180013c03d980032300034807b2c006460004900f65000c24000d201ec9,
    0xc00001a801ed2001808003d003da2003010006a007b40006120006f00f67800c240009e01ece,
    0xc0c001e801ed70018180035003dac003090007a007b5400612000d400f6a000c00001e801ed3,
    0xc000034001edc0018080068403db600301000d0007b680060401ecd00f6c800c0803d9801ed8,
    0xc0c0034201ee10018180068003dc000309000d0807b7c00612001a000f6f000c000034201edd,
    0xc24000aa01ee6001918001d403dca003230002a807b9000646001a100f71800c8c0034001ee2,
    0xc000036001eeb001800006bc03dd400301000d8007ba400602001af00f74000c24000ea01ee7,
    0xc8c0035e01ef0001818006c003dde00303000d7807bb800612001b000f76800c240035e01eec,
    0xc8c000f201ef50019180016403de8003000003c807bcc006000005900f79000c8c0036001ef1,
    0xc4c0076201f00001818001e403df2003030002c807be0006120007900f7b800c24000b201ef6,
    0xc0403e0201f0500180807c0003e080030000f80807c0c0060001f0000f81000c500076201f01,
    0xc0003e1001f0a0018a000e4403e1200313001c8807c200068401f0100f83800d0803e0001f06,
    0xd0803e1201f0f001a1007c2003e1c0030100f84807c340060201f0800f86000c0003e1201f0b,
    0xc0403e2001f1400180007c4403e260030000f88007c4800628003b500f88800c4c0076a01f10,
    0xc0003e3201f1b00180007c6003e3400314001ca807c64006260039500f8c000c0403e2201f15,
    0xc0003e4001f220018a000edc03e4200313001db807c800060201f1900f8e800c0403e3001f1c,
    0xd0803e4201f27001a1007c8003e4c0030100f90807c940060201f2000f92000c0003e4201f23,
    0xc0403e5001f2c00180007ca403e560030000f94007ca8006280039700f94800c4c0072e01f28,
    0xc500077201f3100189800ee403e600034200f94807cbc0068401f2800f97000c0403e5201f2d,
    0xd0803e6001f3600180807cc403e6a0030100f98007cd00060001f3100f99800c0003e6001f32,
    0xc0003e7201f3b00180007ce003e7400314001cc807ce4006260039900f9c000d0803e6201f37,
    0xc4c0077e01f40001a1007ce403e7e0034200f9c007cf80060201f3900f9e800c0403e7001f3c,
    0xc0403e8201f4500180807d0003e880030000fa0807d0c0060001f4000fa1000c500077e01f41,
    0xc0403e9001f4c00180007d2403e960030000fa4007d28006280039f00fa4800c4c0073e01f48,
    0xc0003ea201f5300180007d4003ea400314001e2807d4400626003c500fa8000c0403e9201f4d,
    0xc500074a01f59001a1007d4403eae0034200fa8007d580060201f5100faa800c0403ea001f54,
    0xc500079201f6100189800f2403ec00034200fac807d7c0060201f5900fae800c0003eb201f5b,
    0xd0803ec001f6600180807d8403eca0030100fb0007d900060001f6100fb1800c0003ec001f62,
    0xc0003ed201f6b00180007da003ed400314001d4807da400626003a900fb4000d0803ec201f67,
    0xc000076201f70001a1007da403ede0034200fb4007db80060201f6900fb6800c0403ed001f6c,
    0xc000078a01f7a00180000efc03ef000300001dc807dd800600003b700fba000c000076a01f72,
    0xd1403e0601f83001a2807c0803f040034500f80807e040068a01f0000fc0000c000079201f7c,
    0xd1403e1001f88001a2807c1c03f0e0034500f83007e180068a01f0500fc2800d1403e0801f84,
    0xd1403e1a01f8d001a2807c3003f180034500f85807e2c0068a01f0a00fc5000d1403e1201f89,
    0xd1403e4401f92001a2807c8403f220034500f90007e400068a01f0f00fc7800d1403e1c01f8e,
    0xd1403e4e01f97001a2807c9803f2c0034500f92807e540068a01f2400fca000d1403e4601f93,
    0xd1403e5801f9c001a2807cac03f360034500f95007e680068a01f2900fcc800d1403e5001f98,
    0xd1403ec201fa1001a2807d8003f400034500f97807e7c0068a01f2e00fcf000d1403e5a01f9d,
    0xd1403ecc01fa6001a2807d9403f4a0034500fb2007e900068a01f6300fd1800d1403ec401fa2,
    0xd1403ed601fab001a2807da803f540034500fb4807ea40068a01f6800fd4000d1403ece01fa7,
    0xc180076201fb0001a2807dbc03f5e0034500fb7007eb80068a01f6d00fd6800d1403ed801fac,
    0xd080076201fb6001a2800eb003f6800345001d8807ecc0068a01f7000fd9000c100076201fb1,
    0xd140072201fbc00180000e4403f7400304001c8807ee40060c0039100fdc000d1403f6c01fb7,
    0xd080076e01fc6001a2800eb803f8800345001db807f0c0068a01f7400fe1000d080015001fc1,
    0xc0003f7e01fcd001a2800e5c03f9800300001cb807f28006000039500fe4000d1403f8c01fc7,
    0xc000079401fd200182000ee403fa200306001dc807f400068401fbf00fe7800c0403f7e01fce,
    0xc000073201fda00182000e6403fb200306001cc807f6000684003ca00feb800d080077201fd6,
    0xc100078a01fe100183000f1403fc00034200fff007f7c0060201ffe00fef000c0003ffc01fdd,
    0xd080079601fe7001a1000f1403fcc00314001e0807f9400626003c100ff2000c000079601fe2,
    0xc000015001fed0018a000e8403fd800300001d2807fa800608003a500ff4800c180074a01fe8,
    0xd1403fec01ff7001a1000f2403fec00345001e7007fd00068a003c900ff9800d1403ef801ff2,
    0xce0043240219b0019c0086400433400345001d4807ff000600003a900ffd000c000073e01ff8,
    0xce004406022040019c0087480439e00338010ea00873800670021d0010e6800ce004328021ae,
    0xce004478022410019c0088940444c0033801111808890006700220b01106000ce00441002209,
    0xce0044c2022620019c0000f4044c00033801124008924006700224501123800ce00448602244,
    0xce0044ca022710019c008990044e0003380001f0089bc006700003c01137000ce00449a0226d,
    0xce0044f4022800019c0089dc044f2003380113b0089e000670022730113a800ce0044e402274,
    0xce00450e022890019c008a18045100033801141808a14006700228201142000ce0044f602281,
    0xce0044f8022e00019c008aac0455e0033801154808ab800670022a801156800ce004544022ac,
    0xce004566022eb0019c008ac8045d40033801149008b8c006700229101171000ce0044fa022e1,
    0xc2640609a0304e0184c80c12c06098003380156e80ab7000670022b501176800ce004568022ec,
    0xc264060ae030580184c80c154060ac030990182980c15006132030510182900c2640609e03050,
    0xc264060c2030620184c80c17c060c0030990182e80c178061320305b0182e00c264060b20305a,
    0xc268060de030710184c80c1bc060e0030990183400c1a406132030660183380c264060c803065,
    0xc264060f0030790184d00c1d4060ee030990183a80c1d806134030720183a00c264060e403073,
    0xc2640613a0309e0184c80c118061280309a0183d80c1f4061320307b0183e00c268060f00307a,
    0xc26406166030b40184c80c2c406164030990185780c2c006132030ad0185700c26406156030ac,
    0xc2640617a030be0184c80c2ec06178030990185c80c2e806132030b70185c00c2640616a030b6,
    0xc26406190030c90184c80c3180618e030990186200c31406132030c10186100c2640617e030c0,
    0xc264061aa030d60184d00c348061a8030990186900c34c06134030cf0186880c2640619e030d0,
    0xc268061b6030dd0184c80c36c061b80309a0186c00c36806132030d80186c80c268061aa030d7,
    0xc264061e4030fa0184c80c3c4061f2030990187800c3e006132030ef0187b80c2640614c030f4,
    0x170800bd20fb2b002e08017a41f654005b7002f903ec7c00b68005d907d8e80c264061fa030fe,
    0x16f000ba00fb30002dc0017401f65e005b7002e803ecb800b840fb4907d968017041f6920fb2c,
    0x16f000baa0fb35002de0017501f668005bc002e983eccc00b78005d207d990016f000ba20fb31,
    0x16f000bb60fb3b002de0017681f674005bc002ec83ece400b78005d807d9c0016f000bac0fb36,
    0x16f000bc60fb43002de0017841f682005bc002f003ed0000b78005de07d9f0016f000bb80fb3c,
    0x16f000bd20fb49002de0017a01f690005bc002f383ed1c00b78005e607da30016f000bc80fb44,
    0x16fc00bc80fb4e002df80176c1f69a005bf002e883ed3000b72005d507da58016f000bd40fb4a,
    0x4449c222641112f088938444c42225c110ba088528442ac221741109b0884e0442e8221321109a,
    0x452f422972114be08a580452e422978114ba08a5c8452ec226ae11347089a6044cf82268e1134b,
    0x745943a2b01d15f0e8b287455c3a2bc1193008c9a8464e022b5e115b908add8456bc22b70115ba,
    0x745c83a2be1d1640e8b887457c3a2c61d1700e8af8745883a2de1d15f0e8b08745b83a2be1d160,
    0x745bc3a3761d1bf0e8b70746f03a37c1d16e0e8dd8746f43a2ca1d1ba0e8de0745943a3721d1bb,
    0x745bc3a3781d1c0]

/-- Pairs that are written as one character, by the pair. -/
def compositions : Packed where
  keyBits := 42
  width := 63
  perRow := 5
  size := 941
  rows := #[
    0x304000820030100060000104006000226f0001f000ce0044c00003d0019c0089b80007800338,
    0x8980008200307000810001040060c0010000020800c100018600041001818003080008200302,
    0x800000820030f000e680010400618000c500020800c2803d4400041001848003100008200308,
    0x78080008400307000820001040065001e0000020800c9403d4000041001918008080008200311,
    0x42800086003070008400010c006040010600021800c0403c0c00042001988078100008400323,
    0x78300008800323000870001100061801e0a00022000c1c0018e0004300193800430000860030c,
    0x3240008a00301000640001140060001e0e00022000cc403c2400044001968078400008800327,
    0x4580008a003070008a0001140060c0011200022800c1003d7800045001818003280008a00302,
    0x8180008a00311001020001140061e0011a00022800c3003d74000450018480032c0008a00308,
    0x78680008a0033000f0c0001140065a0011800022800ca0004500004500193807ae00008a00323,
    0x4780008e0030600f1000011c006080011c00023800c08003e800047001808078780008c00307,
    0x7888000900030700092000120006040012200023800c9c003cc00047001860004800008e00307,
    0x78a8000900032e00f140001200064e01e2400024000c8c0043c00048001860078980009000308,
    0x4a800092003040009400012400606000ce00024800c080019a00049001808003300009200300,
    0x73c000920030c00f6400012400612000cf00024800c200026000049001838004b00009200306,
    0x78b00009200330000970001240065001eca00024800c8c004140004900188800820000920030f,
    0x4d8000960032700f1900012c00646001e800025800c3003c600004b001808004d00009400302,
    0x4ec000980032700f1b000130006460013d00026000c30002720004c001808078d00009600331,
    0x79080009a0032300f200001340060e01e3e00026800c0403c740004c001988078f0000980032d,
    0x51c0009c0030c00f220001380060e000d100027000c0c002860004e001808007e00009c00300,
    0x3480009e0030000f240001380066201e4a00027000cb40028a0004e001938079180009c00323,
    0x5380009e00306000a600013c00608000d500027800c0c001a80004f0018100034c0009e00301,
    0x7440009e0030c000a800013c0061601ece00027800c24001ac0004f001840008b80009e00307,
    0x7a80009e0032800f6600013c00646001a000027800c6c0041c0004f001888008300009e0030f,
    0x560000a40030c00f2c0001480060e0015400029000c0403cac0005000183807950000a000301,
    0x7978000a400331000ab0001480064e01e5a00029000c8c004240005200188800840000a40030f,
    0x7988000a600323000b000014c0061801e6000029800c1c002b80005300181000568000a600301,
    0x79b0000a800323000b20001500061801e6a0002a000c1c002bc0005300193800860000a600326,
    0x364000aa0030000f370001500066201e700002a000cb4002c40005400193800868000a800326,
    0x5b0000aa00306000b500015400608001680002a800c0c001b60005500181000368000aa00301,
    0x74c000aa0030c000b8000154006160016e0002a800c2803dcc0005500184800370000aa00308,
    0x79c8000aa0032400f7200015400646001af0002a800c6c0042c0005500188800850000aa0030f,
    0x79f8000ac0032300f3e0001580060601e740002a800cc003cec00055001968005c8000aa00328,
    0x7a10000ae0030800f4300015c0060e001740002b800c0803d040005700180807a00000ae00300,
    0x374000b20030100f790001640060001e8c0002c000c2003d140005800183807a20000ae00323,
    0x5e0000b20030800f470001640060e002320002c800c1003df000059001818005d8000b200302,
    0x5ec000b40030700f4800016800604001790002d000c0403de80005900191807bd8000b200309,
    0x384000c200301000700001840060001e940002d000cc403d240005a001918005f4000b40030c,
    0x89c000c200307000818001840060c0010100030800c10001c60006100181800388000c200302,
    0x804000c20030f000e700018400618000e500030800c2803d460006100184800390000c200308,
    0x780c000c400307000828001840065001e0100030800c9403d42000610019180080c000c200311,
    0x42c000c6003070008480018c006040010700031800c0403c0e0006200198807814000c400323,
    0x7834000c800323000878001900061801e0b00032000c1c001ce0006300193800434000c60030c,
    0x3a4000ca00301000740001940060001e0f00032000cc403c260006400196807844000c800327,
    0x45c000ca003070008a8001940060c0011300032800c1003d7a00065001818003a8000ca00302,
    0x81c000ca00311001028001940061e0011b00032800c3003d7600065001848003ac000ca00308,
    0x786c000ca0033000f0c8001940065a0011900032800ca0004520006500193807ae4000ca00323,
    0x47c000ce0030600f1080019c006080011d00033800c08003ea000670018080787c000cc00307,
    0x788c000d000307000928001a0006040012300033800c9c003ce0006700186000484000ce00307,
    0x78ac000d00032e00f148001a00064e01e2500034000c8c0043e000680018600789c000d000308,
    0x4a4000d200303000770001a400604000ed00034800c04001d80006900180007a58000d000331,
    0x740000d20030c00f648001a400612000ef00034800c200025a00069001830004ac000d200304,
    0x78b4000d200330000978001a40065001ecb00034800c8c004160006900188800824000d20030f,
    0x78cc000d600323000f48001ac0061801e3100035800c04003e00006a001860004d4000d400302,
    0x78dc000d8003230009f0001b0006180013a00036000c0403c6a0006b001988004dc000d600327,
    0x7904000da0030700f1f8001b40060201e3b00036000cc403c7a0006c001968004f0000d800327,
    0x7914000dc00307000788001b8006060014400037000c04003f20006e0018000790c000da00323,
    0x7924000dc0033100f258001b80065a0014600037000c9c03c8e0006e00191800520000dc0030c,
    0x534000de003040007a8001bc00606000f400037800c08001e60006f001808003c8000de00300,
    0x544000de0030b00f678001bc00612000f600037800c200045e0006f0018380053c000de00306,
    0x7b34000de00323000d08001bc006360020f00037800c440041a0006f00187800748000de0030c,
    0x7964000e400307000aa8001c80060201e5700038000c1c03caa00070001808007ac000de00328,
    0x55c000e40032700f2d8001c8006460021300039000c44004220007200187800564000e40030c,
    0x584000e60030c00f308001cc0060e0015d00039800c08002b6000730018080797c000e400331,
    0x7a5c000e80030800f358001d00060e0015f00039800c9c00432000730019300798c000e600323,
    0x79c4000e80032d000b18001d00064e0021b0003a000c9803cda0007400191800594000e80030c,
    0x5a4000ea003030007d8001d400604000fa0003a800c04001f200075001800079bc000e800331,
    0x5bc000ea0030a00f738001d400612000fc0003a800c20002da00075001830005ac000ea00304,
    0x6c0000ea0031b0010b8001d400622002150003a800c3c003a800075001860005c4000ea0030b,
    0x79d4000ea0033000f3b8001d40065a001730003a800ca003ce60007500192007b94000ea00323,
    0x5d4000ee0030200f418001dc0060201e810003b800c0003cfe00076001918079f4000ec00303,
    0x7a2c000f00030700f448001dc0064601e980003b800c2803d0a0007700184007a1c000ee00307,
    0x7be4000f200303000bb8001e400604000fd0003c800c0403de60007900180007a34000f000308,
    0x7a64000f20030a00f7b8001e400612000ff0003c800c2003d1e00079001838008cc000f200304,
    0x5f8000f40030c000be0001e80060e01e910003d000c08002f40007a00180807bd4000f200323,
    0x7f040015000342001c28002a00060201fed00054000c0003d2a0007a00198807a4c000f400323,
    0x778001880030400f540003080061201eaa00061000c0c03d48000c200180807a980018400300,
    0x7b00001940030000f0400031c00602001e200063000c10003f8000c6001808007e80018a00301,
    0x7b48001a80030000f1700033c0060201ec200065000c2403d88000ca00181807af80019400301,
    0x8b0001aa0030400f260003540060201ed40006a000c2403dac000d400181807b40001a800301,
    0x75c001b800301000ed80037000600001fe0006c000c0400454000d600182007938001aa00308,
    0x7aac001c40030300f528003880060201ea700071000c00003b2000dc00186000754001b800304,
    0x78c001cc00304000fe80039800602001fb00072800c04003be000e400182007aa4001c400309,
    0x7b0c001d40030900f628003a80060601ebf00075000c0403d82000ea00180007824001ce00301,
    0x7b54001e80030900f6b8003d00060601ed10007a000c0403da6000f4001800078bc001de00301,
    0x7fc001f000301001158003d80060801e4f0007a800c200045a000f500182007934001ea00301,
    0x7ac00020400300000ed0003f000618001d60007e000c10003b0000fc00180800770001f800300,
    0x7abc002060030100f5880040c0060001eb200081000c2403d680010200181807ab80020400301,
    0x7854002260030000f0b0004480060201e1400089000c0003d660010300184807ad40020600303,
    0x794c0029a0030100f288005340060001e52000a6000c0403ca00014c0018000785c0022600301,
    0x79e0002d00030100f338005840060e01e66000b0000c1c03cca0015b00183807990002b400307,
    0x7b70003400030000f4d8005fc0060e01e7b000b5800c2003cf40016a001840079e4002d200301,
    0x7b74003420030000f710006800064601ede000d0000c2403dc0001a000181807b680034000301,
    0x7ba80035e0030000f718006840064601edf000d0800c2403dc2001a100181807b6c0034200301,
    0x7bac003600030000f780006bc0064601eec000d7800c2403ddc001af00181807ba00035e00301,
    0x7b80036e0030c00f788006c00064601eed000d8000c2403dde001b000181807ba40036000301,
    0x78700045000306000f080089c00608001e000113000c10003da001eb001820007b0003d400304,
    0x7ee80072200300000f7800a48006180023100117800c10004600022e001820078740045200306,
    0x7c24007220031400f84000e440062601fb8001c8800c1803f720039100182000e180072200301,
    0x7c640072a0031400f8c000e540062600388001ca800c0403f900039500180007ef00072200345,
    0x7f300072e0034500f94800e5c0062801f28001cb800c4c007120039700180807f280072e00300,
    0xea8007320030800fec000e640060c01fd9001cc800c10007140039900180807f680073200300,
    0x7d200073e00313001c6000e7c0060201ff8001cf800c0003e72003990018a007ce00073200313,
    0x7fa40074a00304001c7000e940060201fea001d2800c0003fd8003a10018a007d240073e00314,
    0xe3c007520030100ffd000ea40060001f59001d2800c5000756003a500184007fa00074a00306,
    0x7f100075c0034500fda000eb00068a01ffc001d4800d1403ed2003a90018a007da00075200313,
    0x7c00007620031300fd8000ec40060c01fb1001d8800c1000758003b100180807dc00076200300,
    0xeb40076a0030100fb9000ed40060001fb3001d8800d1403f6c003b1001a1007c040076200314,
    0x7c800076e00313001d7000edc0060201f74001db800c0003e22003b50018a007c400076a00313,
    0xebc007720030100fbb000ee40060001fc3001db800d1403f8c003b7001a1007c840076e00314,
    0x7cc4007720031400f98000ee400626003ca001dc800c2003fa0003b900183007f440077200304,
    0x7d040077e0031400fa0000efc00626003cc001df800c0403ef0003bf00180007f580077200342,
    0x7f840078a00304001e6800f140060201f7a001e2800c0003fca003c10018a007f900078200313,
    0x7f980078a0034200fa8800f140062801f50001e2800c4c00796003c500184007f800078a00306,
    0x7fd8007920034200fb0800f240062801f60001e4800c4c0079c003c900180807df00079200300,
    0x7f88007960030000feb800f280068400390001e5000c0403fa4003ca00180007fcc0079200345,
    0xf50007a400308001e9800f480060201ff4001e7000d1403fce003cb001a1000ec00079600301,
    0x10000082a003000020180104c00602004d200208000c20009a0004100018300101c0080c00308,
    0x13780082e003080026e00105800610004c10020b000c180080200415001840013580082a00306,
    0x103000834003010027200106000610004190020c000c18009c400418001820010340083000300,
    0x13c8008460030b0027800108c006100040e00211800c18009dc00423001820013980083c00308,
    0x134c0086000308002688010c00060c004ec00216800c20009f00042b001840013d00084e00308,
    0x13080086c00306002288010d400610004d70021a800c18008a0004350018000114c0086600301,
    0x10e40087000306002718010e0006080045d0021c000c00009be00437001840013740086c00308,
    0x117800886003060027780110c00608004e70021f000c20008b80043a001808013940087000308,
    0x13b40089a003080027c80112c00610004f500223800c20009e600443001858013c40088600308,
    0x136c009b2003080026d00136000610004770023a800c3c008ec004740018780115c008ac00308,
    0x189400c4e006550031180189c00ca8006220031380194c009d6004e9001840013a8009d000308,
    0x1b0000daa0065400369801b4800ca8006c20036080195000c4c0064a0032a00189000c9000654,
    0x27300138e009d7004e580271c0137c00934004998024f001262009300049e0024a4012500093c,
    0x2f280178c00bbe005ca002e48017ae00b4c005a3802d5c0169000b47005ab002d2c0168e00b3e,
    0x33280198c00cc2006600032fc019aa00c48006230031580179600bc7005df002f300178c00bd7,
    0x353001a8c00d57006a500351801a7c00ccb006650033540199000cc60066b00331c0198c00cd5,
    0x377401bb800dca006ef00376401bbe00ddc006ec80373c01bb400dd9006e500352c01a8e00d3e,
    0x6c300361601b3500d85006c240366a01b0800d83806cd40360c01b0500d9a8040980204a0102e,
    0x6d000367c01b3500d9e806cf00366a01b3b00d9d006cd40362401b1100d9a806c380361a01b35,
    0x797003cb40030400f1c8078dc0060801e3800f1b000c100368601b4200d9a806d040367e01b35,
    0x7ad803d400030600f56007a800060401e6900f31800c1c03cd001e620018380797403cb600304,
    0x7b6003d980030200f63807ae40060401ec600f5c000c0803d6e01ea100183007ab403d4200302,
    0x7e0003e000034500f83007c000068401f0400f80000c0403e0401f0000180007b6403d9a00302,
    0x7e0803e040034500fc0807c040068a01f0700f80800d0803e0a01f0100180807c0c03e0200300,
    0x7e1c03e0e0034500fc3007c180068a01f8500f82800d1403f0801f04001a2807e0c03e0600345,
    0x7c2c03e120030000fc4007c200068a01f0e00f84000d0803e1801f0800180807c2803e1000300,
    0x7e2c03e160034500fc5007c280068a01f8900f84800d1403e1e01f09001a1007c3403e1200301,
    0x7c4803e200030000fc7807c3c0068a01f8e00f87000d1403f1a01f0d001a2807e3003e1800345,
    0x7c7003e300030100f8d007c600060001f1500f88800c0403e2601f1100180007c5003e2000301,
    0x7c9803e400034200f92007c800060201f2200f90000c0003e3a01f1900180807c6c03e3200300,
    0x7e4403e420034500f93807c840068401f2500f90800c0403e4601f2100180007e4003e4000345,
    0x7e5803e4c0034500fca807c940068a01f9400f92000d1403f2601f23001a2807e4803e4400345,
    0x7e6003e500034500f97007ca00068401f2c00f94000c0403e5401f2800180007e5c03e4e00345,
    0x7e6803e540034500fcc807ca40068a01f2f00f94800d0803e5a01f2900180807cac03e5200300,
    0x7e7c03e5e0034500fcf007cb80068a01f9d00f96800d1403f3801f2c001a2807e6c03e5600345,
    0x7cd403e620030100f99807cc40060001f3600f98000d0803e6801f3000180807cc803e6000300,
    0x7cec03e720030000f9f007ce00068401f3c00f9c000c0403e7401f3800180007cdc03e6200342,
    0x7d0c03e820030000fa2007d000060201f4200fa0000c0003e7e01f39001a1007cf403e7200301,
    0x7d3403e920030100fa5807d240060001f4c00fa4000c0403e9401f4800180007d1403e8200301,
    0x7d5403ea20030100fa9807d440060001f5600fa8000d0803ea801f5000180807d4803ea000300,
    0x7d8803ec00030000faf807d640068401f5d00fac800c0403eb601f5900180007d5c03ea200342,
    0x7d9403ec20030100fb1807d840060001fa000fb0000d1403ecc01f60001a1007d9003ec000301,
    0x7e9003ec80034500fd1807d8c0068a01fa200fb1000d1403f4201f61001a2807d9c03ec200342,
    0x7db003ed00030100fb5007da00060001fa700fb3800d1403f4c01f66001a2807e9403eca00345,
    0x7dbc03ed20034200fb6807da40060201f6b00fb4800c0003f5001f68001a2807db803ed000342,
    0x7eb403eda0034500fd6007db00068a01fab00fb5800d1403f5401f6a001a2807ea403ed200345,
    0x7fc803ef80034500fe1007dd00068a01fb200fb8000d1403f5e01f6f001a2807eb803edc00345,
    0x7f1c03f8c0034500fe7807efc0068401fce00fdf800c0403f9a01fbf00180007edc03f6c00345,
    0x8668043200033800fef807ff80068401fde00fff000c0403fba01ffe00180007fdc03fec00345,
    0x8738043a800338010e780874800670021cd010e8000ce00435c021940019c00866c0432400338,
    0x88980444a003380111200888c006700220c01105800ce004412022080019c0088100440600338,
    0x89b40449a0033801124808920006700224701122800ce004488022430019c0089040447800338,
    0x89d4044e6003380113a0089c8006700227101132800ce0044e0022640019c008988044c200338,
    0x8b80044f800338011408089ec00670022800113d000ce0044f2022770019c0089e0044ec00338,
    0x8a240450e0033801144008a18006700228501141800ce004508022820019c008b84044fa00338,
    0x8ab8045520033801156808aa000670022ac01151000ce0045c6022920019c008b880452200338,
    0x8bb40456a0033801176008ad000670022eb01159800ce0045d4022b20019c008abc0455600338,
    0xc148060a2030990182800c13c061320304e0182680c264060980304b0184c80c2500608c03099,
    0xc170060b6030990182d00c16406132030580182b80c264060ac030550184c80c150060a603099,
    0xc19c060cc030990183280c19006132030620183080c264060c00305f0184c80c178060ba03099,
    0xc1d0060e40309a0183980c1c806132030710183780c268060e00306f0184c80c1a4060d003099,
    0xc1f0060f6030990183d00c1e006134030790183c00c264060ee030750184d00c1d8060ea03099,
    0xc2b80615a030990185600c2ac06132030f40185300c2640613c0309d0184c80c1f4060f60309a,
    0xc2e00616e030990185b00c2d406132030b40185980c26406164030b10184c80c2c00615e03099,
    0xc30806182030990186000c2fc06132030be0185e80c26406178030bb0184c80c2e80617203099,
    0xc3440619e0309a0186800c33c06132030c90186400c2640618e030c60184c80c3140618803099,
    0xc364061b0030990186b80c35406134030d60186a80c264061a8030d20184d00c34c061a403099,
    0xc3e0061e0030990187b80c3bc06132030dd0186d80c268061b8030db0184c80c368061b00309a,
    0x4427022136110ba0884d04426422174030fe0187e80c264061f4030f20184c80c3e4061e203099,
    0x44d302268e11357089a5844d1c2267c1112f0889904449c2225c11131088938442ac2214a110ba,
    0x456ec22b72115af08add0456e022b5e114be08a5c8452f422976114b908a5d0452f022972114b0,
    0x464e02326a11930]

/-- Where the combining class changes, and to what. -/
def combiningClasses : Packed where
  keyBits := 21
  width := 29
  perRow := 12
  size := 570
  rows := #[
    0xdc0019c80800cd370006539400327dc00191e5000c877000639b00031be80018d6e000c5ba00062bcc00300,
    0xdc001acf4000d6398006afb800353e6001a800000d3f700069bcc0034adc001a3f3000d1bc00068bcc0033d,
    0xe6002c96e0016440000911cc0048300001b873000d8fa4006c5d400360e9001aff5000d77a4006b9cc0035b,
    0xe6002d7f20016bb7800b5bcc005abdc002d5730016a37000b45cc0059cdc002cdef00166b9800b2fb800596,
    0x15002de0a0016ec4c00b7224005b811002db880016d83c00b6a1c005b40d002d9860016c82c00b6214005b0,
    0x2e40900171c0000b8db8005c5e6002e20000170c6400b8430005c100002e00b8016fc0000b7c2c005bd,
    0x2100328900019407c00c9e3c0064e1d003268e0019306c00c96000061b200030d0f8018647800c31cc00610,
    0x36ef3001b580000ce2460067000003306e00197f9800cbbb80065ce60032bee0019579800ca64400652,
    0x38912001c440000dddb8006ede600375ee001ba80000dd3cc006e70000372f3001b937000dc7cc006df,
    0xdc003a173001cff7000e7dcc0073ddc0039df3001ceb7000e6fcc00735dc0039a73001ccb7000e63cc00730,
    0x3fa73001fcf7000fe5cc007eb00003a5f3001d277000e91cc00747dc003a373001d177000e89cc00743,
    0x42e6e002164000105dcc008290000414730020940001049cc0081b000040d730020580000ffdb8007fd,
    0xe600473ee00239b98011c9b8008e3000047173002353700119fcc008ca0000450730022737001133cc00898,
    0x480730023ef70011f3cc008f7dc0047b730023cc74011e438008f11b004786e0023b798011d5b8008e9,
    0x4e704802734000137a0e009bc00004aaf300254f70012a5cc0095100004a704802534000127a0e0093c,
    0x59e83802cf0000159c1200acd000055e83802af0000149c1200a4d000051e838028f000013ffcc009fe,
    0x70065e0000315d6c018aca800c55000062704803134000187a0e00c3c00005e704802f34000169c1200b4d,
    0x71d848038e99c01c700000dcb09006e5000035382401a9a0000d3d090069d80003338240199a0000cbd,
    0xdc0079b80003cdb7001e6a0000f1adc0078c00003b31e801d900000ebb090075d3b003ae00001c98d600e48,
    0x7c0c1003e000001efd0400f7a00007bac2003dd00001ee70400f7281007b880003ceb6001e720000f38,
    0xdc00846800040ec24020720001038070081b80003f1f7001f8c0000f88e6007c300003e142401f09cc00f82,
    0xe400c5480005f7b9802fba00017d30900be900005cd42402e6800017160900b8a00004d8398026ba000108e,
    0xd3ef30069d400034c21201a600000d0cee006863980342e000193cdc00c9df30064eb780327200018aa,
    0xdc00d6573006b177003587cc01ac1dc00d5f80006afb700357bcc01abbdc00d5af3006ac00003501b801a7f,
    0xdd604806ea800036e9cc01b6ddc00db673006dac000368a1201b440000d9a83806cd0000359fcc01acb,
    0xdc00e6e7300736b70039aa0201cd40000e69f300734000038700e01c370000dfa04806fc800037ce0e01be6,
    0xdc00ee17300770000039f5cc01cf80000e7af30073d000039ddb801ced0000e748080738800039c3cc01ce0,
    0xda00efd6e0077e79003befd001df6e600ee8e50077437003b9fac01dceea00ee6f300772f7003b95cc01dc3,
    0x106ef300836c04041b1cc020d40101069730083400003c01b801dffe600eff6e0077f7a403bf9cc01dfb,
    0x16797300b3bc00041e3cc020f0dc01076008083ab98041d3b8020e8e6010738080839400041c5cc020e1,
    0x184d8400c2640006061c00302ede01816f400c0b39006057b40302a00017007300b7800005b001202d7f,
    0x54168482a0b0001500e120a806000537973029bc00014d41cc0a69e000533f730299d00014ce1cc0a66f,
    0x54e08482a70000153680e0a9b300054aa0482a54c001525db80a92b00054797302a380001518a120a8c4,
    0x90557b0002ab0b9815582000aac0e60555f0002aae7981556e000aab5dc0555a7302aac80015563cc0aab0,
    0xdc08170000407fb70203fa000fe30e607f176e03f89f981fc40000fb1f1a07d8f0002afb824157da000aaf7,
    0x90851f800428ef70214740210a39e60851c00042843982141e0010a0edc0850680040def98206ec00102e1,
    0xe6087a66e043d2f9821e91b810f460008756f3043aac0021a51cc10d240008573ee042b9b98215ca0010a40,
    0x90883f800441c424220e00011047090882300043e1b7021f0bcc10f84dc087c1f3043e080021ea3b810f4d,
    0x88e08484470000222e80e11173000889a848444cc0022207cc11100000885d838442e824221720011080,
    0x89a704844d34002267a0e1133b000897584844ba81c225d20011237070891b048448d400223960e111ca,
    0x708a618484530800228bfcc1145e0008a23838451180022886121144200089baf3044dc000226dbcc11366,
    0x908c1c80045cb02422e5600116b80708b5b84845ad80022c80121163f0008ae0838457002422b7e00114c4,
    0x8d240484691c002346a1211a340008cf08484678000232880e119430008c9f848464f400230760e1183a,
    0xb57a8085abc00023b301211d970008ea3048475100023a860e11d420008e20048470fc00235341211a99,
    0xe8b9ec0745bb883a2da001d16a010e8b3ec074594003793e021bc9e000b7f90305bfc0002d66fcc16b30,
    0xe60f0040007801f983c000001d245e60e921000746bb983a354001d18cdc0e8c573074614003a307b81d17b,
    0xe60f17600078abf983c55c001e137e60f098000780af983c04c001e025e60f0118007808b983c036001e019,
    0x3d2960e1e94ae60f4a20007a35f703d1a0001e2f0]

end FieldRules.Unicode.Tables
